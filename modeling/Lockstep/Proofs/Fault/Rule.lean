/-
# Rules as they are written and read

A rule is read from words: the name of a kind of request and the name of a fault, or the name of
another kind that rules can be about, a block number and the name of a fault.  Whatever the words
look like, what they say is told by the names and the number alone.  The text that a rule is
written as has such words, so the rule is read from it again.
-/
import Lockstep.Fault.Rule
import Lockstep.Proofs.Text.Words

namespace Lockstep

/-- In a list in which at most one entry passes a test, that entry is found. -/
lemma find?_eq_some_iff_of_unique {α : Type} {p : α → Bool} {items : List α} {item : α}
    (unique : ∀ a ∈ items, ∀ b ∈ items, p a → p b → a = b) :
    items.find? p = some item ↔ item ∈ items ∧ p item := by
  constructor
  · intro found
    exact ⟨List.mem_of_find?_eq_some found, List.find?_some found⟩
  · rintro ⟨mem, passes⟩
    rcases found : items.find? p with _ | other
    · exact absurd passes (List.find?_eq_none.mp found item mem)
    · rw [unique other (List.mem_of_find?_eq_some found) item mem (List.find?_some found) passes]

/-! ## Names -/

namespace Kind

/-- The word is the name of the kind, in any letter case. -/
def CalledBy (kind : Kind) (word : String) : Prop :=
  word.toList.map Char.toLower = kind.name.toList.map Char.toLower

instance (kind : Kind) : DecidablePred kind.CalledBy :=
  fun _ => inferInstanceAs (Decidable (_ = _))

lemma eq_of_calledBy {kind other : Kind} {word : String} (called : kind.CalledBy word)
    (called' : other.CalledBy word) : kind = other := by
  have same : kind.name.toList.map Char.toLower = other.name.toList.map Char.toLower :=
    called.symm.trans called'
  revert same
  cases kind <;> cases other <;> decide

lemma ofName?_eq_some_iff {kind : Kind} {word : String} :
    ofName? word = some kind ↔ kind ∈ wire ∧ kind.CalledBy word := by
  have called : ∀ kind : Kind, Text.sameLetters kind.name word = true ↔ kind.CalledBy word := by
    intro kind
    rw [Text.sameLetters, decide_eq_true_eq, ← String.toList_inj, Text.toList_lower,
      Text.toList_lower, CalledBy, eq_comm]
  rw [ofName?, find?_eq_some_iff_of_unique, called]
  intro a _ b _ first second
  exact eq_of_calledBy ((called a).mp first) ((called b).mp second)

end Kind

namespace Mutation

/-- The word is the name of the fault, in any letter case and with underscores for hyphens. -/
def CalledBy (mutation : Mutation) (word : String) : Prop :=
  (word.toList.map Char.toLower).map (fun c => if c = '_' then '-' else c) = mutation.name.toList

instance (mutation : Mutation) : DecidablePred mutation.CalledBy :=
  fun _ => inferInstanceAs (Decidable (_ = _))

lemma mem_all (mutation : Mutation) : mutation ∈ all := by
  cases mutation <;> decide

lemma name_inj {mutation other : Mutation} (same : mutation.name = other.name) :
    mutation = other := by
  revert same
  cases mutation <;> cases other <;> decide

lemma calledBy_name (mutation : Mutation) : mutation.CalledBy mutation.name := by
  cases mutation <;> rfl

lemma solid_name (mutation : Mutation) : Text.Solid mutation.name ∧ mutation.name ≠ "" := by
  cases mutation <;> decide

/-- A fault is read from a word that is its name, as a word has no blanks around it. -/
lemma parse_eq_ok_iff {mutation : Mutation} {word : String} (solid : Text.Solid word) :
    parse word = .ok mutation ↔ mutation.CalledBy word := by
  have form : ∀ name, decide (name = normalForm word) = true ↔
      (word.toList.map Char.toLower).map (fun c => if c = '_' then '-' else c) = name.toList := by
    intro name
    rw [decide_eq_true_eq, ← String.toList_inj, normalForm, Text.trim_of_solid solid,
      String.toList_ofList, Text.toList_lower, eq_comm]
  have found : ofName? word = some mutation ↔ mutation.CalledBy word := by
    rw [ofName?, find?_eq_some_iff_of_unique, form, and_iff_right mutation.mem_all, CalledBy]
    intro a _ b _ first second
    exact name_inj ((of_decide_eq_true first).trans (of_decide_eq_true second).symm)
  refine Iff.trans ?_ found
  unfold parse
  rcases ofName? word with _ | other <;> simp

end Mutation

/-! ## Rules -/

namespace FaultRule

/-- The words say the rule. -/
inductive Wording : List String → FaultRule → Prop where
  /-- A kind of request and a fault. -/
  | request {kind : Kind} {mutation : Mutation} {target fault : String}
      (request : kind = .readRequest ∨ kind = .writeRequest) (kind_called : kind.CalledBy target)
      (mutation_called : mutation.CalledBy fault) : Wording [target, fault] ⟨kind, 0, mutation⟩
  /-- A kind that carries block numbers, a block number and a fault. -/
  | numbered {kind : Kind} {block : BlockNumber} {mutation : Mutation}
      {target number fault : String} (carries : kind = .data ∨ kind = .ack)
      (kind_called : kind.CalledBy target) (spelled : Text.Spells number block.toNat)
      (mutation_called : mutation.CalledBy fault) :
      Wording [target, number, fault] ⟨kind, block, mutation⟩

variable {kind : Kind} {block : BlockNumber} {mutation : Mutation} {rule : FaultRule}
  {text word : String} {words rest : List String}

lemma parseKind_eq_ok_iff : parseKind word = .ok kind ↔ isTarget kind ∧ kind.CalledBy word := by
  constructor
  · intro read
    unfold parseKind at read
    split at read
    next other found =>
      split_ifs at read with target
      cases read
      exact ⟨target, (Kind.ofName?_eq_some_iff.mp found).2⟩
    · cases read
  · rintro ⟨target, called⟩
    have wire : kind ∈ Kind.wire := by
      revert target
      cases kind <;> decide
    rw [parseKind, Kind.ofName?_eq_some_iff.mpr ⟨wire, called⟩]
    exact if_pos target

lemma parseBlock_eq_ok_iff (carries : kind.hasBlock) :
    parseBlock kind words = .ok (block, rest) ↔
      ∃ number, words = number :: rest ∧ Text.Spells number block.toNat := by
  rw [parseBlock.eq_def, if_pos carries]
  constructor
  · intro read
    split at read
    · cases read
    next number others =>
      split at read
      next found =>
        cases read
        exact ⟨number, rfl, Text.readWord_eq_some_iff.mp found⟩
      · cases read
  · rintro ⟨number, rfl, spelled⟩
    dsimp only
    rw [Text.readWord_eq_some_iff.mpr spelled]

lemma parseMutation_eq_ok_iff (solid : ∀ word ∈ words, Text.Solid word) :
    parseMutation words = .ok mutation ↔ ∃ fault, words = [fault] ∧ mutation.CalledBy fault := by
  constructor
  · intro read
    unfold parseMutation at read
    split at read
    · cases read
    next fault others =>
      split at read
      · cases read
      next other found =>
        split_ifs at read with none
        cases read
        obtain rfl := List.isEmpty_iff.mp none
        have single := solid fault List.mem_cons_self
        exact ⟨fault, rfl, (Mutation.parse_eq_ok_iff single).mp found⟩
  · rintro ⟨fault, rfl, called⟩
    have single := solid fault List.mem_cons_self
    have found : Mutation.parse fault = .ok mutation :=
      (Mutation.parse_eq_ok_iff single).mpr called
    unfold parseMutation
    simp only [found, List.isEmpty_nil, if_true]

/-- A rule is read word by word. -/
lemma ofWords_cons_eq_ok_iff :
    ofWords (word :: words) = .ok rule ↔ ∃ kind block rest mutation,
      parseKind word = .ok kind ∧ parseBlock kind words = .ok (block, rest) ∧
        parseMutation rest = .ok mutation ∧ rule = make kind block mutation := by
  constructor
  · intro read
    rcases named : parseKind word with e | kind
    · simp only [ofWords, named, reduceCtorEq] at read
    rcases numbered : parseBlock kind words with e | ⟨block, rest⟩
    · simp only [ofWords, named, numbered, reduceCtorEq] at read
    rcases fault : parseMutation rest with e | mutation
    · simp only [ofWords, named, numbered, fault, reduceCtorEq] at read
    simp only [ofWords, named, numbered, fault, Except.ok.injEq] at read
    exact ⟨kind, block, rest, mutation, rfl, numbered, fault, read.symm⟩
  · rintro ⟨kind, block, rest, mutation, named, numbered, fault, rfl⟩
    simp only [ofWords, named, numbered, fault]

lemma isTarget_iff :
    isTarget kind ↔
      (kind = .readRequest ∨ kind = .writeRequest) ∨ (kind = .data ∨ kind = .ack) := by
  cases kind <;> decide

/-- Words without blanks are read as the rule that they say. -/
lemma ofWords_eq_ok_iff (solid : ∀ word ∈ words, Text.Solid word) :
    ofWords words = .ok rule ↔ Wording words rule := by
  constructor
  · intro read
    rcases words with _ | ⟨target, others⟩
    · cases read
    obtain ⟨kind, block, rest, mutation, named, numbered, fault, rfl⟩ :=
      ofWords_cons_eq_ok_iff.mp read
    obtain ⟨isTarget, called⟩ := parseKind_eq_ok_iff.mp named
    have solid_others : ∀ word ∈ others, Text.Solid word := fun word mem =>
      solid word (List.mem_cons_of_mem _ mem)
    rcases isTarget_iff.mp isTarget with request | carries
    · have none : ¬ kind.hasBlock := by
        rcases request with rfl | rfl <;> decide
      have isRequest : kind.isRequest := by
        rcases request with rfl | rfl <;> rfl
      rw [parseBlock.eq_def, if_neg none] at numbered
      cases numbered
      obtain ⟨last, rfl, called'⟩ := (parseMutation_eq_ok_iff solid_others).mp fault
      rw [make, if_pos isRequest]
      exact .request request called called'
    · have some : kind.hasBlock := by
        rcases carries with rfl | rfl <;> rfl
      have noRequest : ¬ kind.isRequest := by
        rcases carries with rfl | rfl <;> decide
      obtain ⟨number, rfl, spelled⟩ := (parseBlock_eq_ok_iff some).mp numbered
      obtain ⟨last, rfl, called'⟩ := (parseMutation_eq_ok_iff fun word mem =>
        solid_others word (List.mem_cons_of_mem _ mem)).mp fault
      rw [make, if_neg noRequest]
      exact .numbered carries called spelled called'
  · intro wording
    cases wording with
    | @request kind mutation target fault request called called' =>
      have single : ∀ word ∈ [fault], Text.Solid word := fun word mem =>
        solid word (List.mem_cons_of_mem _ mem)
      refine ofWords_cons_eq_ok_iff.mpr ⟨kind, 0, [fault], mutation,
        parseKind_eq_ok_iff.mpr ⟨isTarget_iff.mpr (.inl request), called⟩, ?_,
        (parseMutation_eq_ok_iff single).mpr ⟨fault, rfl, called'⟩, ?_⟩
      · rcases request with rfl | rfl <;> rfl
      · rcases request with rfl | rfl <;> rfl
    | @numbered kind block mutation target number fault carries called spelled called' =>
      have single : ∀ word ∈ [fault], Text.Solid word := fun word mem =>
        solid word (List.mem_cons_of_mem _ (List.mem_cons_of_mem _ mem))
      have some : kind.hasBlock := by
        rcases carries with rfl | rfl <;> rfl
      refine ofWords_cons_eq_ok_iff.mpr ⟨kind, block, [fault], mutation,
        parseKind_eq_ok_iff.mpr ⟨isTarget_iff.mpr (.inr carries), called⟩,
        (parseBlock_eq_ok_iff some).mpr ⟨number, rfl, spelled⟩,
        (parseMutation_eq_ok_iff single).mpr ⟨fault, rfl, called'⟩, ?_⟩
      rcases carries with rfl | rfl <;> rfl

/-- A text is read as the rule that its words say. -/
lemma parse_eq_ok_iff : parse text = .ok rule ↔ Wording (Text.pieces text) rule := by
  rw [parse, Text.words_eq_pieces]
  exact ofWords_eq_ok_iff fun word => Text.solid_of_mem_pieces

/-! ## Writing -/

lemma solid_name (kind : Kind) : Text.Solid kind.name ∧ kind.name ≠ "" := by
  cases kind <;> decide

/-- The words of a rule that is written say the rule. -/
lemma wording_display {words : List String} (wording : Wording words rule) :
    Wording (Text.pieces rule.display) rule := by
  rw [← Text.words_eq_pieces]
  cases wording with
  | @request kind mutation _ _ request =>
    have isRequest : kind.isRequest := by
      rcases request with rfl | rfl <;> rfl
    have words : Text.words (display ⟨kind, 0, mutation⟩) = [kind.name, mutation.name] := by
      rw [display, if_pos isRequest, Text.words_append_space,
        Text.words_of_solid (solid_name kind).1 (solid_name kind).2,
        Text.words_of_solid mutation.solid_name.1 mutation.solid_name.2]
      rfl
    rw [words]
    exact .request request rfl mutation.calledBy_name
  | @numbered kind block mutation _ _ _ carries =>
    have noRequest : ¬ kind.isRequest := by
      rcases carries with rfl | rfl <;> decide
    have number := Text.solid_toString block.toNat
    have words : Text.words (display ⟨kind, block, mutation⟩)
        = [kind.name, toString block.toNat, mutation.name] := by
      rw [display, if_neg noRequest, Text.words_append_space, Text.words_append_space,
        Text.words_of_solid (solid_name kind).1 (solid_name kind).2,
        Text.words_of_solid number.1 number.2,
        Text.words_of_solid mutation.solid_name.1 mutation.solid_name.2]
      rfl
    rw [words]
    exact .numbered carries rfl (Text.spells_toString _) mutation.calledBy_name

/-- A rule that rules can be about has words that say it. -/
lemma exists_wording_make (target : isTarget kind) (block : BlockNumber) (mutation : Mutation) :
    ∃ words, Wording words (make kind block mutation) := by
  rcases isTarget_iff.mp target with request | carries
  · refine ⟨[kind.name, mutation.name], ?_⟩
    have made : make kind block mutation = ⟨kind, 0, mutation⟩ := by
      rcases request with rfl | rfl <;> rfl
    rw [made]
    exact .request request rfl mutation.calledBy_name
  · refine ⟨[kind.name, toString block.toNat, mutation.name], ?_⟩
    have made : make kind block mutation = ⟨kind, block, mutation⟩ := by
      rcases carries with rfl | rfl <;> rfl
    rw [made]
    exact .numbered carries rfl (Text.spells_toString _) mutation.calledBy_name

lemma block_of_wording (wording : Wording words rule) (request : rule.kind.isRequest) :
    rule.block = 0 := by
  cases wording with
  | request => rfl
  | numbered carries => rcases carries with rfl | rfl <;> cases request

/-- Rules are read from the text that they are written as.  A text is read as a rule exactly if
its words, which are what stands between its blanks, say the rule.  A rule that was read is read
from the text that it is written as, and one about requests has the number zero. -/
theorem parse_inverts_display :
    (∀ kind, kind = .readRequest ∨ kind = .writeRequest ∨ kind = .data ∨ kind = .ack →
      ∀ block mutation,
        parse (make kind block mutation).display = .ok (make kind block mutation)) ∧
    (∀ text rule, parse text = .ok rule ↔ Wording (Text.pieces text) rule) ∧
    ∀ text rule, parse text = .ok rule →
      parse rule.display = .ok rule ∧ (rule.kind.isRequest → rule.block = 0) := by
  refine ⟨fun kind named block mutation => ?_, fun _ _ => parse_eq_ok_iff, fun text rule read => ?_⟩
  · have target : isTarget kind := isTarget_iff.mpr (or_assoc.mpr named)
    obtain ⟨words, wording⟩ := exists_wording_make target block mutation
    exact parse_eq_ok_iff.mpr (wording_display wording)
  · have wording := parse_eq_ok_iff.mp read
    exact ⟨parse_eq_ok_iff.mpr (wording_display wording), block_of_wording wording⟩

/-- Signs, zeros in front, capitals and underscores are all the same to the reader. -/
theorem parse_inverts_display_spelled_freely :
    let text := "  ack\t+007 Invalid_Block-Number "
    let rule : FaultRule := ⟨.ack, 7, .invalidBlockNumber⟩
    parse text = .ok rule ∧ rule.display = "ACK 7 invalid-block-number" ∧
      parse rule.display = .ok rule := by
  intro text rule
  obtain ⟨-, reads, again⟩ := parse_inverts_display
  have words : Text.pieces text = ["ack", "+007", "Invalid_Block-Number"] := by decide
  have wording : Wording (Text.pieces text) rule := by
    rw [words]
    exact .numbered (.inr rfl) (by decide)
      ⟨['+'], ['0', '0', '7'], rfl, .inr rfl, by decide, by simp, rfl⟩ (by decide)
  have read := (reads text rule).mpr wording
  exact ⟨read, by decide, (again text rule read).1⟩

end FaultRule

end Lockstep
