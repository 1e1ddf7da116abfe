/-
# What is read below a directory

A server over a directory takes uploads in while it serves other files.  What has come of an upload
lies in a staging file until the last block has come, and a staging file is a file below the same
directory.  So what keeps an upload from being read before it is finished is the name of its
staging file and nothing else: the names that are admitted are not asked for their form.

Here a server hears requests, datagrams and drops in any order.  The history tells which uploads
have begun and which ones were finished, and what has been published under which path.  From step
to step the staged files stay apart from everything else, so a name leads to what has been
committed unless it leads to the staging path of an upload that is not finished.  What is sent was
opened under some name, and stays what it was if that name has not the form of a staging name.
-/
import Lockstep.Proofs.Server.Isolation
import Lockstep.Proofs.Session.OpenFiles
import Lockstep.Proofs.Store.Path
import Lockstep.Proofs.Store.Staging
import Mathlib.Data.List.Infix

namespace Lockstep

/-! ## Names of staging files -/

namespace DirectoryStore

/-- The name ends in what a staging file may be called from now on. -/
def EndsStaged (store : DirectoryStore) (name : String) : Prop :=
  ∃ last ∈ (Name.steps name).getLast?, IsStagingName store.disk.process store.disk.nextStaging last

variable {store : DirectoryStore} {name : String}

/-- A name whose last step does not begin with a point has not the form of a staging name. -/
lemma not_endsStaged_of_visible
    (visible : ∀ last ∈ (Name.steps name).getLast?, last.toList.head? ≠ some '.') :
    ¬ store.EndsStaged name := by
  rintro ⟨_, ends, fileName, number, -, rfl⟩
  exact visible _ ends (by rw [toList_stagingName]; rfl)

end DirectoryStore

namespace Server

/-! ## Histories -/

section Histories

variable {σ : Type} [FileStore σ] {store : σ} {history : List ServerEvent} {event : ServerEvent}

lemma run_append (server : Server σ) (front back : List ServerEvent) :
    server.run (front ++ back) = (server.run front).run back := by
  rw [run, run, run, List.foldl_append]

lemma run_concat (server : Server σ) (history : List ServerEvent) (event : ServerEvent) :
    server.run (history ++ [event]) = (server.run history).step event :=
  run_append server history [event]

lemma served_le_step (server : Server σ) (event : ServerEvent) :
    server.served ≤ (server.step event).served := by
  cases event with
  | request request peer => exact Nat.le_succ _
  | datagram id datagram source => exact (hear_served ..).ge
  | drop id => exact (drop_served ..).ge

lemma served_le_run (server : Server σ) (history : List ServerEvent) :
    server.served ≤ (server.run history).served := by
  induction history generalizing server with
  | nil => exact Nat.le_refl _
  | cons event history ih => exact (served_le_step server event).trans (ih _)

/-- At some point of the history an event of this kind has come. -/
def Happened (store : σ) (history : List ServerEvent) (kind : Server σ → ServerEvent → Prop) :
    Prop :=
  ∃ front event, front ++ [event] <+: history ∧ kind (run { store } front) event

variable {kind : Server σ → ServerEvent → Prop}

lemma not_happened_nil : ¬ Happened store [] kind := by
  rintro ⟨front, event, before, -⟩
  simpa using before.length_le

lemma happened_concat_iff :
    Happened store (history ++ [event]) kind ↔
      Happened store history kind ∨ kind (run { store } history) event := by
  constructor
  · rintro ⟨front, event', before, here⟩
    rcases List.prefix_concat_iff.mp before with whole | before
    · obtain ⟨rfl, same⟩ := List.append_inj' whole rfl
      cases same
      exact .inr here
    · exact .inl ⟨front, event', before, here⟩
  · rintro (⟨front, event', before, here⟩ | here)
    · exact ⟨front, event', before.trans (List.prefix_append _ _), here⟩
    · exact ⟨history, event, List.prefix_rfl, here⟩

/-- A session that has lived at some point goes by a number that has been given out. -/
lemma Happened.lt_served {id : Nat} (h : Happened store history kind)
    (lives : ∀ {server event}, kind server event →
      ∃ session, (server.step event).session? id = some session) :
    id < (run { store } history).served := by
  obtain ⟨front, event, ⟨rest, rfl⟩, here⟩ := h
  obtain ⟨session, lives⟩ := lives here
  rw [← run_concat] at lives
  have lt := ((orderly_start store).run (front ++ [event])).lt_served lives
  rw [run_append]
  exact Nat.lt_of_lt_of_le lt (served_le_run _ rest)

/-- An event is about one session, and leaves the others as they are. -/
lemma step_session?_of_ne {server : Server σ} {id : Nat}
    (ne : id ≠ event.id?.getD server.served) :
    (server.step event).session? id = server.session? id := by
  cases event with
  | request request peer => exact Function.update_of_ne ne _ _
  | datagram other datagram source => exact (step_aside server rfl ne).1
  | drop other => exact (step_aside server rfl ne).1

end Histories

variable {store : DirectoryStore} {history : List ServerEvent} {event : ServerEvent}
  {server : Server DirectoryStore} {id : Nat} {writer : DirectoryWriter}

/-- The event begins an upload. -/
def Begins (id : Nat) (writer : DirectoryWriter) (server : Server DirectoryStore)
    (event : ServerEvent) : Prop :=
  server.served = id ∧
    ∃ session, (server.step event).session? id = some session ∧ session.writer? = some writer

/-- The event makes a session write the last block of what it receives and finish its file. -/
def Finishes (id : Nat) (target : String) (server : Server DirectoryStore) (event : ServerEvent) :
    Prop :=
  ∃ (session : Session DirectoryStore) (writer writer' : DirectoryWriter) (block : Bytes)
    (between : DirectoryStore),
    server.session? id = some session ∧ session.writer? = some writer ∧ writer.target = target ∧
    FileStore.write server.store writer block = (.ok (), writer', between) ∧
    FileStore.finish between writer' = (.ok (), (server.step event).store) ∧
    ∃ session', (server.step event).session? id = some session' ∧ session'.phase = .complete

lemma Begins.lives (h : Begins id writer server event) :
    ∃ session, (server.step event).session? id = some session := by
  obtain ⟨-, session, lives, -⟩ := h
  exact ⟨session, lives⟩

lemma Finishes.lives {target : String} (h : Finishes id target server event) :
    ∃ session, (server.step event).session? id = some session := by
  obtain ⟨-, -, -, -, -, -, -, -, -, -, session, lives, -⟩ := h
  exact ⟨session, lives⟩

/-- The event makes a session finish its file, which has this content then. -/
def Publishes (path : DiskPath) (content : Bytes) (server : Server DirectoryStore)
    (event : ServerEvent) : Prop :=
  ∃ id target, Finishes id target server event ∧
    (server.step event).store.disk.place? target = some path ∧
    (server.step event).store.disk.content? path = some content

/-- An upload has begun, with this writer, and was not finished. -/
def Unfinished (store : DirectoryStore) (history : List ServerEvent) (id : Nat)
    (writer : DirectoryWriter) : Prop :=
  Happened store history (Begins id writer) ∧
    ¬ ∃ target, Happened store history (Finishes id target)

/-- The file was there in the beginning with this content, or has been published with it. -/
def Committed (store : DirectoryStore) (history : List ServerEvent) (path : DiskPath)
    (content : Bytes) : Prop :=
  store.disk.content? path = some content ∨ Happened store history (Publishes path content)

lemma Committed.concat {path : DiskPath} {content : Bytes}
    (h : Committed store history path content) (event : ServerEvent) :
    Committed store (history ++ [event]) path content :=
  h.imp_right fun published => happened_concat_iff.mpr (.inl published)

/-- Nothing is finished as long as no session is through. -/
lemma not_finished_of_going
    (going : ∀ front, front <+: history → ∀ id session,
      (run { store } front).session? id = some session → session.phase ≠ .complete)
    (id : Nat) (target : String) : ¬ Happened store history (Finishes id target) := by
  rintro ⟨front, event, before, _, _, _, _, _, -, -, -, -, -, session', lives, complete⟩
  rw [← run_concat] at lives
  exact going _ before id session' lives complete

/-! ## Ends of a writer -/

lemma discards_of_givenUp {store store' : DirectoryStore} {first writer : DirectoryWriter}
    (continues : first.Continues writer) (givenUp : Session.GivenUp store writer store') :
    first.Discards store.disk store'.disk ∧ store'.root = store.root := by
  cases givenUp with
  | aborted =>
    exact ⟨(DirectoryWriter.discards_abort writer store.disk).after (.refl _ _) continues, rfl⟩
  | @unwritten between writer' block e failed =>
    obtain ⟨writes, continues', root⟩ := DirectoryStore.effect_of_write continues failed
    exact ⟨(DirectoryWriter.discards_abort writer' between.disk).after writes continues', root⟩
  | unfinished written failed =>
    obtain ⟨writes, continues', root⟩ := DirectoryStore.effect_of_write continues written
    obtain ⟨discards, root'⟩ := DirectoryStore.effect_of_finish failed
    exact ⟨discards.after writes continues', root'.trans root⟩

lemma publishes_of_finish {store between store' : DirectoryStore}
    {first writer writer' : DirectoryWriter} {block : Bytes} (continues : first.Continues writer)
    (written : FileStore.write store writer block = (.ok (), writer', between))
    (finished : FileStore.finish between writer' = (.ok (), store')) :
    first.Publishes store.disk store'.disk ∧ store'.root = store.root := by
  obtain ⟨writes, continues', root⟩ := DirectoryStore.effect_of_write continues written
  obtain ⟨publishes, root'⟩ := DirectoryStore.effect_of_finish finished
  exact ⟨publishes.after writes continues', root'.trans root⟩

/-! ## One event -/

/-- The node holds what was committed under the name, and will go on to hold it. -/
def SendsCommitted (store : DirectoryStore) (history : List ServerEvent) (now : DirectoryStore)
    (name : String) (node : Nat) : Prop :=
  Settled store.disk.nextStaging (Unfinished store history) now.disk node ∧
    ∃ text path, store.resolve name = .ok text ∧ store.disk.place? text = some path ∧
      Committed store history path (now.disk.nodeContent node)

/-- What a session reads has been read before under the same name, or has just been opened. -/
lemma reads_of_step {session : Session DirectoryStore} {reader : DirectoryReader}
    (lives : (server.step event).session? id = some session)
    (reads : session.reader? = some reader) :
    (∃ (before : Session DirectoryStore) (reader' : DirectoryReader),
      server.session? id = some before ∧ before.reader? = some reader' ∧
        before.filename = session.filename ∧ reader'.node = reader.node) ∨
    ∃ first, server.store.openRead session.filename = .ok first ∧ first.node = reader.node := by
  by_cases own : id = event.id?.getD server.served
  swap
  · rw [step_session?_of_ne own] at lives
    exact .inl ⟨session, reader, lives, reads, rfl, rfl⟩
  cases event with
  | request request peer =>
    obtain rfl : id = server.served := own
    rw [step, serve_session?, Function.update_self] at lives
    cases lives
    obtain ⟨first, opened, rfl⟩ :=
      (Session.served_serve request peer server.store server.locks).opened_of_reads reads
    exact .inr ⟨first, opened, rfl⟩
  | datagram other datagram source =>
    obtain rfl : id = other := own
    rw [step, hear_session?, Function.update_self] at lives
    obtain ⟨before, lived, rfl⟩ := Option.map_eq_some_iff.mp lives
    have named := (Session.keepsFile_handle before server.store datagram source).filename.symm
    rcases Session.reader?_handle before server.store datagram source with
      same | ⟨reader', reads', same⟩
    · exact .inl ⟨before, reader, lived, same.symm.trans reads, named, rfl⟩
    · obtain rfl := Option.some.inj (same.symm.trans reads)
      exact .inl ⟨before, reader', lived, reads', named, rfl⟩
  | drop other =>
    obtain rfl : id = other := own
    rw [step, drop_session?, Function.update_self] at lives
    cases lives

/-- What holds of a server over a directory at any time. -/
structure Tracked (store : DirectoryStore) (history : List ServerEvent)
    (server : Server DirectoryStore) : Prop where
  current : server = run { store } history
  orderly : server.Orderly
  root : server.store.root = store.root
  tree : Disk.SameTree store.disk server.store.disk
  apart : StagedApart store.disk.nextStaging (Unfinished store history) (Committed store history)
    server.store.disk
  /-- A session that has a writer is under way, and its upload is not finished. -/
  writing : ∀ {id session writer}, server.session? id = some session →
    session.writer? = some writer →
      session.phase = .transferring ∧ ∃ first, Unfinished store history id first ∧
        first.Continues writer
  /-- A session that sends a file sends what was committed, if the name has not the form of a
  staging name. -/
  reading : ∀ {id} {session : Session DirectoryStore} {reader : DirectoryReader},
    server.session? id = some session → session.reader? = some reader →
      ¬ store.EndsStaged session.filename →
        SendsCommitted store history server.store session.filename reader.node

namespace Tracked

/-- Only a datagram for a session makes it finish its file. -/
lemma finishes (h : Tracked store history server) {target : String}
    (finishes : Finishes id target server event) :
    event.id? = some id ∧ ∃ first, Unfinished store history id first ∧ first.target = target := by
  obtain ⟨session, writer, -, -, -, lives, has, rfl, -, -, session', lives', complete⟩ := finishes
  obtain ⟨active, first, unfinished, continues⟩ := h.writing lives has
  refine ⟨?_, first, unfinished, continues.target.symm⟩
  by_contra aside
  have ne : id ≠ event.id?.getD server.served := by
    rcases about : event.id? with _ | other
    · exact Nat.ne_of_lt (h.orderly.lt_served lives)
    · rintro rfl
      exact aside about
  rw [step_session?_of_ne ne, lives] at lives'
  cases lives'
  rw [active] at complete
  cases complete

/-- Only a request begins an upload. -/
lemma begins (h : Tracked store history server) (begins : Begins id writer server event) :
    event.id? = none ∧ id = server.served := by
  obtain ⟨rfl, session, lives, -⟩ := begins
  refine ⟨?_, rfl⟩
  rcases about : event.id? with _ | other
  · rfl
  · obtain ⟨before, lived, -⟩ := exists_keepsFile about lives
    exact absurd (h.orderly.lt_served lived) (Nat.lt_irrefl _)

/-- What an event makes of the uploads that are not finished. -/
lemma unfinished_concat_iff (h : Tracked store history server) {first : DirectoryWriter} :
    Unfinished store (history ++ [event]) id first ↔
      (Begins id first server event ∨ Unfinished store history id first) ∧
        ¬ ∃ target, Finishes id target server event := by
  simp only [Unfinished, happened_concat_iff, ← h.current]
  constructor
  · rintro ⟨begun, going⟩
    refine ⟨?_, fun ⟨target, finishes⟩ => going ⟨target, .inr finishes⟩⟩
    exact begun.symm.imp_right fun begun =>
      ⟨begun, fun ⟨target, ended⟩ => going ⟨target, .inl ended⟩⟩
  · rintro ⟨begins | ⟨begun, going⟩, goesOn⟩
    · refine ⟨.inr begins, ?_⟩
      rintro ⟨target, ended | finishes⟩
      · -- nothing has been finished by a session that has just begun
        have lt := ended.lt_served Finishes.lives
        rw [← h.current, (h.begins begins).2] at lt
        exact absurd lt (Nat.lt_irrefl _)
      · exact goesOn ⟨target, finishes⟩
    · refine ⟨.inl begun, ?_⟩
      rintro ⟨target, ended | finishes⟩
      · exact going ⟨target, ended⟩
      · exact goesOn ⟨target, finishes⟩

lemma unfinished_request (h : Tracked store history server) (request : Bytes) (peer : Endpoint) :
    Unfinished store (history ++ [.request request peer]) = fun other first =>
      other = server.served ∧
          (Session.serve request peer server.store server.locks).1.session.writer? = some first ∨
        Unfinished store history other first := by
  funext other first
  refine propext (h.unfinished_concat_iff.trans ?_)
  have goesOn : ¬ ∃ target, Finishes other target server (.request request peer) := by
    rintro ⟨target, finishes⟩
    cases (h.finishes finishes).1
  rw [and_iff_left goesOn]
  refine or_congr_left ⟨?_, ?_⟩
  · rintro ⟨rfl, session, lives, has⟩
    rw [step, serve_session?, Function.update_self] at lives
    cases lives
    exact ⟨rfl, has⟩
  · rintro ⟨rfl, has⟩
    exact ⟨rfl, _, Function.update_self _ _ _, has⟩

lemma unfinished_of_about (h : Tracked store history server) (about : event.id? = some id) :
    Unfinished store (history ++ [event]) = fun other first =>
      Unfinished store history other first ∧
        ¬ (other = id ∧ ∃ target, Finishes id target server event) := by
  funext other first
  refine propext (h.unfinished_concat_iff.trans ?_)
  have nothing : ¬ Begins other first server event := by
    intro begins
    rw [(h.begins begins).1] at about
    cases about
  rw [or_iff_right nothing]
  refine and_congr_right fun _ => not_congr ⟨?_, ?_⟩
  · rintro ⟨target, finishes⟩
    obtain rfl := Option.some.inj ((h.finishes finishes).1.symm.trans about)
    exact ⟨rfl, target, finishes⟩
  · rintro ⟨rfl, finishes⟩
    exact finishes

lemma unfinished_of_quiet (h : Tracked store history server) (about : event.id? = some id)
    (quiet : ¬ ∃ target, Finishes id target server event) :
    Unfinished store (history ++ [event]) = Unfinished store history := by
  rw [h.unfinished_of_about about]
  simp [quiet]

/-- What an event makes of the disk, and of the session that it is about. -/
structure Follows (store : DirectoryStore) (history : List ServerEvent)
    (server : Server DirectoryStore) (event : ServerEvent) : Prop where
  root : (server.step event).store.root = server.store.root
  change : UploadChange (Unfinished store history) server.store.disk
    (Unfinished store (history ++ [event])) (server.step event).store.disk
  writing : ∀ session ∈ (server.step event).session? (event.id?.getD server.served),
    ∀ writer, session.writer? = some writer → session.phase = .transferring ∧
      ∃ first, Unfinished store (history ++ [event]) (event.id?.getD server.served) first ∧
        first.Continues writer

/-- It is enough to look at the session that the event is about. -/
lemma follows_of_session {after : Option (Session DirectoryStore)}
    (own : event.id?.getD server.served = id) (lives : (server.step event).session? id = after)
    (root : (server.step event).store.root = server.store.root)
    (change : UploadChange (Unfinished store history) server.store.disk
      (Unfinished store (history ++ [event])) (server.step event).store.disk)
    (writing : ∀ session ∈ after, ∀ writer, session.writer? = some writer →
      session.phase = .transferring ∧ ∃ first, Unfinished store (history ++ [event]) id first ∧
        first.Continues writer) :
    Follows store history server event := by
  subst own lives
  exact ⟨root, change, writing⟩

/-- If that session has no writer afterwards, there is nothing to look at. -/
lemma follows_of_closed {after : Option (Session DirectoryStore)}
    (own : event.id?.getD server.served = id) (lives : (server.step event).session? id = after)
    (root : (server.step event).store.root = server.store.root)
    (change : UploadChange (Unfinished store history) server.store.disk
      (Unfinished store (history ++ [event])) (server.step event).store.disk)
    (closed : ∀ session ∈ after, session.writer? = none) :
    Follows store history server event := by
  refine follows_of_session own lives root change fun session mem writer has => ?_
  rw [closed session mem] at has
  cases has

lemma follows_request (h : Tracked store history server) (request : Bytes) (peer : Endpoint) :
    Follows store history server (.request request peer) := by
  obtain ⟨turn, same⟩ : ∃ turn, turn = (Session.serve request peer server.store server.locks).1 :=
    ⟨_, rfl⟩
  have unfinished := h.unfinished_request request peer
  have served := Session.served_serve request peer server.store server.locks
  have store' : (server.step (.request request peer)).store = turn.store := same ▸ rfl
  have lives :
      (server.step (.request request peer)).session? server.served = some turn.session := by
    rw [same]
    exact Function.update_self _ _ _
  rw [← same] at unfinished served
  -- without a writer nothing has begun
  have idle : turn.session.writer? = none → ∀ {disk},
      UploadChange (Unfinished store history) server.store.disk (Unfinished store history) disk →
      turn.store.disk = disk → turn.store.root = server.store.root →
        Follows store history server (.request request peer) := by
    intro none disk change disk' root
    have still : Unfinished store (history ++ [.request request peer])
        = Unfinished store history := by
      rw [unfinished]
      simp [none]
    refine follows_of_closed rfl lives (store' ▸ root) ?_ (by rintro _ ⟨⟩; exact none)
    rw [still, store', disk']
    exact change
  cases served with
  | nothing same' none => exact idle none (.same _ _) (by rw [same']) (by rw [same'])
  | reads same' opened none => exact idle none (.same _ _) (by rw [same']) (by rw [same'])
  | fails failed none =>
    obtain ⟨⟨number, le, disk⟩, root⟩ := DirectoryStore.counted_of_openWrite_error failed
    exact idle none (.counted number le) disk root
  | @writes name writer opened has _ begins =>
    obtain ⟨opens, root⟩ := DirectoryStore.opened_of_openWrite opened
    have fresh : ∀ first, ¬ Unfinished store history server.served first := by
      intro first begun
      have lt := begun.1.lt_served Begins.lives
      rw [← h.current] at lt
      exact absurd lt (Nat.lt_irrefl _)
    refine follows_of_session rfl lives (store' ▸ root) ?_ ?_
    · have more : Unfinished store (history ++ [.request request peer]) = fun other first =>
          other = server.served ∧ first = writer ∨ Unfinished store history other first := by
        rw [unfinished, has]
        simp [eq_comm]
      rw [more, store']
      exact .opened fresh opens
    · rintro _ ⟨⟩ writer' has'
      obtain rfl := Option.some.inj (has.symm.trans has')
      refine ⟨begins, writer, ?_, .refl _⟩
      rw [unfinished]
      exact .inl ⟨rfl, has⟩

/-- An event for a session that does not live changes nothing. -/
lemma follows_of_nobody (h : Tracked store history server) (about : event.id? = some id)
    (nobody : server.session? id = none) : Follows store history server event := by
  have still : server.step event = server := by
    cases event <;> cases about <;> simp only [step, hear, drop, nobody]
  have quiet : ¬ ∃ target, Finishes id target server event := by
    rintro ⟨target, session, -, -, -, -, lives, -⟩
    rw [nobody] at lives
    cases lives
  refine follows_of_closed (by rw [about]; rfl) (still ▸ nobody) (by rw [still]) ?_ (by simp)
  rw [still, h.unfinished_of_quiet about quiet]
  exact .same _ _

lemma follows_drop (h : Tracked store history server) (id : Nat) :
    Follows store history server (.drop id) := by
  rcases lives : server.session? id with _ | session
  · exact h.follows_of_nobody rfl lives
  have gone : (server.step (.drop id)).session? id = none := by
    rw [step, drop_session?, Function.update_self]
  have quiet : ¬ ∃ target, Finishes id target server (.drop id) := by
    rintro ⟨target, -, -, -, -, -, -, -, -, -, -, session', lives', -⟩
    rw [gone] at lives'
    cases lives'
  have store' : (server.step (.drop id)).store
      = session.writer?.elim server.store (FileStore.abandon server.store) := by
    rw [← Session.close_store session server.store server.locks]
    simp only [step, drop, lives]
  refine follows_of_closed rfl gone ?_ ?_ (by simp)
  · rw [store']
    rcases session.writer? with _ | writer <;> rfl
  · rw [h.unfinished_of_quiet rfl quiet, store']
    rcases has : session.writer? with _ | writer
    · exact .same _ _
    · obtain ⟨-, first, own, continues⟩ := h.writing lives has
      exact .writes own (continues.node ▸ DirectoryWriter.writes_close writer server.store.disk)

lemma uses (h : Tracked store history server) {session : Session DirectoryStore}
    (lives : server.session? id = some session) (datagram : Bytes) (source : Endpoint) :
    Session.Uses session server.store (session.handle server.store datagram source) := by
  by_cases active : session.phase = .transferring
  · exact Session.uses_handle active server.store datagram source
  · rw [Session.handle_of_inactive active]
    refine .leaves rfl rfl fun has => ?_
    obtain ⟨writer, has⟩ := Option.isSome_iff_exists.mp has
    exact (h.writing lives has).1

lemma follows_datagram (h : Tracked store history server) (id : Nat) (datagram : Bytes)
    (source : Endpoint) : Follows store history server (.datagram id datagram source) := by
  rcases lives : server.session? id with _ | session
  · exact h.follows_of_nobody rfl lives
  obtain ⟨turn, same⟩ : ∃ turn, turn = session.handle server.store datagram source := ⟨_, rfl⟩
  have uses := h.uses lives datagram source
  rw [← same] at uses
  have store' : (server.step (.datagram id datagram source)).store = turn.store := by
    simp only [step, hear, lives, same]
  have lives' : (server.step (.datagram id datagram source)).session? id = some turn.session := by
    rw [step, hear_session?, Function.update_self, lives, same, Option.map_some]
  -- as long as the file is not finished, the uploads are what they were
  have quiet : turn.session.phase ≠ .complete ∨ session.writer? = none →
      Unfinished store (history ++ [.datagram id datagram source]) = Unfinished store history := by
    refine fun going => h.unfinished_of_quiet rfl ?_
    rintro ⟨target, _, writer, _, _, _, lived, has, -, -, -, _, ends, complete⟩
    obtain rfl := Option.some.inj (lives.symm.trans lived)
    obtain rfl := Option.some.inj (lives'.symm.trans ends)
    rcases going with going | none
    · exact going complete
    · rw [none] at has
      cases has
  cases uses with
  | leaves same' keeps goesOn =>
    have still : Unfinished store (history ++ [.datagram id datagram source])
        = Unfinished store history := by
      refine quiet ?_
      rcases has : session.writer? with _ | writer
      · exact .inr rfl
      · exact .inl fun complete => by rw [goesOn (by simp [has])] at complete; cases complete
    refine follows_of_session rfl lives' (by rw [store', same'])
      (by rw [still, store', same']; exact .same _ _) ?_
    rintro _ ⟨⟩ writer has
    obtain ⟨-, begun⟩ := h.writing lives (keeps.symm.trans has)
    rw [still]
    exact ⟨goesOn (by simp [← keeps, has]), begun⟩
  | @writes writer writer' block has written keeps goesOn =>
    have still := quiet (.inl (by simp [goesOn]))
    obtain ⟨-, first, own, continues⟩ := h.writing lives has
    obtain ⟨writes, continues', root⟩ := DirectoryStore.effect_of_write continues written
    refine follows_of_session rfl lives' (by rw [store', root])
      (by rw [still, store']; exact .writes own writes) ?_
    rintro _ ⟨⟩ writer'' has'
    obtain rfl := Option.some.inj (keeps.symm.trans has')
    rw [still]
    exact ⟨goesOn, first, own, continues'⟩
  | @publishes writer writer' block between has written finished closed completes =>
    obtain ⟨-, first, own, continues⟩ := h.writing lives has
    obtain ⟨publishes, root⟩ := publishes_of_finish continues written finished
    have ends : ∃ target, Finishes id target server (.datagram id datagram source) :=
      ⟨writer.target, session, writer, writer', block, between, lives, has, rfl, written,
        by rw [store']; exact finished, _, lives', completes⟩
    have fewer : Unfinished store (history ++ [.datagram id datagram source])
        = fun other first => other ≠ id ∧ Unfinished store history other first := by
      rw [h.unfinished_of_about rfl]
      funext other first
      simp [ends, and_comm]
    exact follows_of_closed rfl lives' (by rw [store', root])
      (by rw [fewer, store']; exact .publishes own publishes) (by rintro _ ⟨⟩; exact closed)
  | @discards writer has givenUp closed fails =>
    have still := quiet (.inl (by simp [fails]))
    obtain ⟨-, first, own, continues⟩ := h.writing lives has
    obtain ⟨discards, root⟩ := discards_of_givenUp continues givenUp
    exact follows_of_closed rfl lives' (by rw [store', root])
      (by rw [still, store']; exact .discards own discards) (by rintro _ ⟨⟩; exact closed)

lemma follows (h : Tracked store history server) (event : ServerEvent) :
    Follows store history server event := by
  cases event with
  | request request peer => exact h.follows_request request peer
  | datagram id datagram source => exact h.follows_datagram id datagram source
  | drop id => exact h.follows_drop id

/-- A name leads where it led in the beginning. -/
lemma place_of_finds (h : Tracked store history server) {name : String} {path : DiskPath}
    {node : Nat} (finds : server.store.Finds name path node) :
    ∃ text, store.resolve name = .ok text ∧ store.disk.place? text = some path := by
  obtain ⟨text, resolved, place, -⟩ := finds
  obtain ⟨admitted, rfl⟩ := DirectoryStore.resolve_eq_ok_iff.mp resolved
  rw [h.root, h.tree.place?] at place
  exact ⟨_, DirectoryStore.resolve_eq_ok_iff.mpr ⟨admitted, rfl⟩, place⟩

/-- What a name leads to is settled if the name has not the form of a staging name. -/
lemma settled_of_finds (h : Tracked store history server) {name : String} {path : DiskPath}
    {node : Nat} (finds : server.store.Finds name path node) (plain : ¬ store.EndsStaged name) :
    Settled store.disk.nextStaging (Unfinished store history) server.store.disk node := by
  have same := finds.getLast?
  obtain ⟨-, -, -, there⟩ := finds
  refine .of_entry h.apart there fun last ends staged => plain ⟨last, ?_, ?_⟩
  · rwa [same] at ends
  · rwa [h.tree.process] at staged

/-- What is opened under a name that has not the form of a staging name has been committed. -/
lemma sends_opened (h : Tracked store history server) {name : String} {reader : DirectoryReader}
    (opened : server.store.openRead name = .ok reader) (plain : ¬ store.EndsStaged name) :
    SendsCommitted store history server.store name reader.node := by
  obtain ⟨-, path, finds⟩ := DirectoryStore.openRead_eq_ok_iff.mp opened
  have settled := h.settled_of_finds finds plain
  obtain ⟨text, resolved, place⟩ := h.place_of_finds finds
  obtain ⟨-, -, -, there⟩ := finds
  exact ⟨settled, text, path, resolved, place, h.apart.committed there settled.clean⟩

lemma step (h : Tracked store history server) (event : ServerEvent) :
    Tracked store (history ++ [event]) (server.step event) := by
  obtain ⟨root, change, writing⟩ := h.follows event
  have current : server.step event = run { store } (history ++ [event]) := by
    rw [run_concat, h.current]
  have tree := h.tree.trans (change.sameTree h.apart)
  have apart : StagedApart store.disk.nextStaging (Unfinished store (history ++ [event]))
      (Committed store (history ++ [event])) (server.step event).store.disk := by
    refine change.stagedApart h.apart (fun _ _ committed => committed.concat event) ?_
    intro id first path content own ended place there
    -- what is no longer unfinished has been finished by this event
    obtain ⟨target, finishes⟩ : ∃ target, Finishes id target server event := by
      by_contra going
      exact ended (h.unfinished_concat_iff.mpr ⟨.inr own, going⟩)
    obtain ⟨-, first', own', rfl⟩ := h.finishes finishes
    obtain rfl := h.apart.single own own'
    refine .inr (happened_concat_iff.mpr (.inr ?_))
    rw [← h.current]
    exact ⟨id, _, finishes, place, there⟩
  refine ⟨current, h.orderly.step event, root.trans h.root, tree, apart, ?_, ?_⟩
  · intro id session writer lives has
    by_cases own : id = event.id?.getD server.served
    · subst own
      exact writing session lives writer has
    · rw [step_session?_of_ne own] at lives
      obtain ⟨active, first, unfinished, continues⟩ := h.writing lives has
      refine ⟨active, first, h.unfinished_concat_iff.mpr ⟨.inr unfinished, ?_⟩, continues⟩
      rintro ⟨target, finishes⟩
      rw [(h.finishes finishes).1] at own
      exact own rfl
  · -- what was sent before is as it was, and what is opened now is sent from here on
    have kept : ∀ {name node}, SendsCommitted store history server.store name node →
        SendsCommitted store (history ++ [event]) (server.step event).store name node := by
      rintro name node ⟨settled, text, path, resolved, place, committed⟩
      obtain ⟨settled', same⟩ := change.settled h.apart settled
      exact ⟨settled', text, path, resolved, place, same ▸ committed.concat event⟩
    intro id session reader lives reads plain
    rcases reads_of_step lives reads with
      ⟨before, reader', lived, reads', named, same⟩ | ⟨first, opened, same⟩
    · have sends := h.reading lived reads' (named ▸ plain)
      rw [named, same] at sends
      exact kept sends
    · exact kept (same ▸ h.sends_opened opened plain)

end Tracked

lemma tracked_start (sound : store.disk.Sound) : Tracked store [] { store } where
  current := rfl
  orderly := orderly_start store
  root := rfl
  tree := .refl _
  apart := .of_sound sound (fun _ _ there => .inl there) fun _ _ begun => not_happened_nil begun.1
  writing lives := by cases lives
  reading lives := by cases lives

/-- Whatever happens to a server, the uploads stay apart from what is committed. -/
lemma tracked_run (sound : store.disk.Sound) (history : List ServerEvent) :
    Tracked store history (run { store } history) := by
  induction history using List.reverseRecOn with
  | nil => exact tracked_start sound
  | append_singleton history event ih =>
    rw [run_concat]
    exact ih.step event

/-! ## What is read -/

/-- The node holds what was committed under the path, and no upload that is not finished is in
it. -/
def HoldsCommitted (store : DirectoryStore) (history : List ServerEvent) (path : DiskPath)
    (node : Nat) : Prop :=
  Committed store history path ((run { store } history).store.disk.nodeContent node) ∧
    ∀ id writer, Unfinished store history id writer → writer.node ≠ node

/-- What a file holds has been committed unless the path is the staging path of an upload that is
not finished. -/
lemma holdsCommitted_iff (h : Tracked store history (run { store } history)) {name : String}
    {path : DiskPath} {node : Nat} (finds : (run { store } history).store.Finds name path node) :
    HoldsCommitted store history path node ↔
      ¬ ∃ id writer, Unfinished store history id writer ∧ writer.node = node ∧
        (run { store } history).store.disk.place? writer.staging = some path := by
  obtain ⟨-, -, -, there⟩ := finds
  constructor
  · rintro ⟨-, clean⟩ ⟨id, writer, begun, own, -⟩
    exact clean id writer begun own
  · intro aside
    have clean : ∀ id writer, Unfinished store history id writer → writer.node ≠ node := by
      rintro id writer begun rfl
      exact aside ⟨id, writer, begun, rfl, h.apart.hidden begun there⟩
    exact ⟨h.apart.committed there clean, clean⟩

/-- Whatever happens to a server over a directory, the files that it opens hold what has been
committed, except for the staging files of uploads that are not finished; and under a name that has
not the form of a staging name of the process it never opens one of these.  It finds no more files
than it opens, and it sends what it has opened.  A session that sends a file goes on to send what
was committed under its name if the name has not that form. -/
theorem read_committed_iff_not_staged {store : DirectoryStore} (sound : store.disk.Sound)
    (history : List ServerEvent) :
    let server := run { store } history
    (∀ name reader, server.store.openRead name = .ok reader → ∃ path,
      server.store.Finds name path reader.node ∧
      (HoldsCommitted store history path reader.node ↔
        ¬ ∃ id writer, Unfinished store history id writer ∧ writer.node = reader.node ∧
          server.store.disk.place? writer.staging = some path) ∧
      (¬ store.EndsStaged name → HoldsCommitted store history path reader.node)) ∧
    (∀ name, server.store.holds name = true ↔ ∃ reader, server.store.openRead name = .ok reader) ∧
    (∀ request peer name mode, Packet.decode request = .ok (.readRequest name mode) →
      (Session.serve request peer server.store server.locks).1.session.phase = .transferring →
        ∃ reader, server.store.openRead name = .ok reader ∧
          (Session.serve request peer server.store server.locks).1.session.reader?
            = some (server.store.read reader).2) ∧
    ∀ id (session : Session DirectoryStore) (reader : DirectoryReader),
      server.session? id = some session → session.reader? = some reader →
        ¬ store.EndsStaged session.filename → ∃ path,
          store.disk.place? (Name.join store.root session.filename) = some path ∧
            HoldsCommitted store history path reader.node := by
  intro server
  have tracked : Tracked store history server := tracked_run sound history
  refine ⟨?_, ?_, ?_, ?_⟩
  · intro name reader opened
    obtain ⟨-, path, finds⟩ := DirectoryStore.openRead_eq_ok_iff.mp opened
    refine ⟨path, finds, holdsCommitted_iff tracked finds, fun plain => ?_⟩
    have settled := tracked.settled_of_finds finds plain
    obtain ⟨-, -, -, there⟩ := finds
    exact ⟨tracked.apart.committed there settled.clean, settled.clean⟩
  · intro name
    rw [DirectoryStore.holds_eq_true_iff]
    constructor
    · rintro ⟨path, node, finds⟩
      exact ⟨⟨node, 0⟩, DirectoryStore.openRead_eq_ok_iff.mpr ⟨rfl, path, finds⟩⟩
    · rintro ⟨reader, opened⟩
      obtain ⟨-, path, finds⟩ := DirectoryStore.openRead_eq_ok_iff.mp opened
      exact ⟨path, reader.node, finds⟩
  · intro request peer name mode asks accepted
    exact Session.serve_reads asks peer server.store server.locks accepted
  · intro id session reader lives reads plain
    obtain ⟨settled, text, path, resolved, place, committed⟩ := tracked.reading lives reads plain
    obtain ⟨-, rfl⟩ := DirectoryStore.resolve_eq_ok_iff.mp resolved
    exact ⟨path, place, committed, settled.clean⟩

/-- While the file `f` is being received, `g` is sent as it was in the beginning. -/
theorem read_committed_beside_an_upload :
    let host (port : UInt16) : Endpoint := { address := .v4 127 0 0 1, port }
    let read : Bytes := [0, 1, 103, 0, 111, 99, 116, 101, 116, 0]
    let write : Bytes := [0, 2, 102, 0, 111, 99, 116, 101, 116, 0]
    let store : DirectoryStore :=
      { root := "/srv", disk := Disk.populate {} ["srv"] [] [("g", [7])] }
    let history : List ServerEvent :=
      [.request read (host 2000), .request write (host 3000),
        .datagram 1 ([0, 3, 0, 1] ++ List.replicate 512 65) (host 3000)]
    store.disk.Sound ∧ ¬ store.EndsStaged "g" ∧
      ∃ server : Server DirectoryStore, server = run { store } history ∧
        server.store.openRead "g" = .ok ⟨0, 0⟩ ∧ HoldsCommitted store history ["srv", "g"] 0 := by
  intro host read write store history
  have sound : store.disk.Sound := Disk.sound_empty.populate ["srv"] [] [("g", [7])]
  have plain : ¬ store.EndsStaged "g" :=
    DirectoryStore.not_endsStaged_of_visible (by decide)
  have opened : (run { store } history).store.openRead "g" = .ok ⟨0, 0⟩ := by decide +kernel
  have place : (run { store } history).store.disk.place? "/srv/g" = some ["srv", "g"] := by
    decide +kernel
  obtain ⟨path, ⟨text, resolved, place', -⟩, -, committed⟩ :=
    (read_committed_iff_not_staged sound history).1 "g" ⟨0, 0⟩ opened
  refine ⟨sound, plain, _, rfl, opened, ?_⟩
  have same : (run { store } history).store.resolve "g" = .ok "/srv/g" := by decide +kernel
  obtain rfl := Except.ok.inj (same.symm.trans resolved)
  obtain rfl := Option.some.inj (place.symm.trans place')
  exact committed plain

/-- The name of a staging file is admitted.  A client that asks for it is sent what has come of an
upload that was dropped, and that was never committed. -/
theorem unfinished_upload_read :
    let host (port : UInt16) : Endpoint := { address := .v4 127 0 0 1, port }
    let write : Bytes := [0, 2, 102, 0, 111, 99, 116, 101, 116, 0]
    let read : Bytes := (Packet.readRequest ".f.1000-0.part" "octet").encode
    let block : Bytes := List.replicate 512 65
    let store : DirectoryStore := { root := "/srv", disk := Disk.populate {} ["srv"] [] [] }
    let history : List ServerEvent :=
      [.request write (host 2000), .datagram 0 ([0, 3, 0, 1] ++ block) (host 2000), .drop 0]
    ∃ server : Server DirectoryStore, server = run { store } history ∧
      Name.validate ".f.1000-0.part" = .ok () ∧
      server.store.openRead ".f.1000-0.part" = .ok ⟨0, 0⟩ ∧
      server.store.disk.nodeContent 0 = block ∧
      (∃ writer, Unfinished store history 0 writer ∧ writer.node = 0) ∧
      (∀ path, ¬ Committed store history path block) ∧
      (server.serve read (host 3000)).sent 1 = [⟨[0, 3, 0, 1] ++ block, host 3000⟩] := by
  intro host write read block store history
  have going : ∀ id target, ¬ Happened store history (Finishes id target) := by
    refine not_finished_of_going ?_
    have one : ∀ front ∈ history.inits, (run { store } front).served ≤ 1 ∧
        ((run { store } front).session? 0).all (·.phase ≠ .complete) = true := by decide +kernel
    intro front before id session lives
    obtain ⟨served, goes⟩ := one front (List.mem_inits front history |>.mpr before)
    have le : id < (run { store } front).served := ((orderly_start store).run front).lt_served lives
    obtain rfl : id = 0 := by omega
    rw [lives] at goes
    simpa using goes
  have begun : ∃ writer, Happened store history (Begins 0 writer) ∧ writer.node = 0 := by
    have begins : ((((run { store } []).step (.request write (host 2000))).session? 0).bind
        Session.writer? : Option DirectoryWriter) = some {
          node := 0
          staging := "/srv/.f.1000-0.part"
          target := "/srv/f"
          remaining := none } := by
      decide +kernel
    obtain ⟨session, lives, has⟩ := Option.bind_eq_some_iff.mp begins
    exact ⟨_, ⟨[], _, ⟨_, rfl⟩, rfl, session, lives, has⟩, rfl⟩
  obtain ⟨writer, begun, node⟩ := begun
  refine ⟨_, rfl, by decide, by decide +kernel, by decide +kernel,
    ⟨writer, ⟨begun, fun ⟨target, ended⟩ => going 0 target ended⟩, node⟩, ?_, by decide +kernel⟩
  rintro path (there | ⟨front, event, before, id, target, finishes, -⟩)
  · have entries : store.disk.entries = [(["srv"], .directory)] := by decide +kernel
    have nothing : store.disk.content? path = none := by
      rw [Disk.content?, Disk.entry?, entries, Disk.lookup_cons_eq]
      split_ifs <;> rfl
    rw [nothing] at there
    cases there
  · exact going id target ⟨front, event, before, finishes⟩

end Server

end Lockstep
