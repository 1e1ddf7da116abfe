/-
# What the kinds of datagram look like

The matcher of layouts tries the ends that a run of text could have.  This file says what it
accepts without speaking of the search: a run can be cut off if some front part will do.  With
this each layout is a plain shape of bytes.

The second byte of a datagram that fits a kind is the opcode of the kind, so no datagram fits
two kinds, and a datagram is of a kind exactly if it fits it and is not too long.
-/
import Lockstep.Packet.Kind
import Mathlib.Tactic.Common

namespace Lockstep

namespace Token

/-- A run can be cut off the front exactly if some non-empty front part without zero bytes
leaves what the rest of the layout accepts. -/
lemma acceptsRun_iff {continues : Bytes → Bool} {bytes : Bytes} :
    acceptsRun continues bytes = true ↔
      ∃ run rest, bytes = run ++ rest ∧ run ≠ [] ∧ 0 ∉ run ∧ continues rest = true := by
  induction bytes with
  | nil =>
    constructor
    · intro h
      simp [acceptsRun] at h
    · rintro ⟨run, rest, hcut, hne, -, -⟩
      exact absurd (List.append_eq_nil_iff.mp hcut.symm).1 hne
  | cons b bytes ih =>
    simp only [acceptsRun, Bool.and_eq_true, decide_eq_true_eq, Bool.or_eq_true, ih]
    -- the run ends behind the first byte, or goes on with a run of the bytes that follow
    constructor
    · rintro ⟨hb, hc | ⟨run, rest, rfl, -, hzero, hc⟩⟩
      · exact ⟨[b], bytes, rfl, by simp, by simpa using Ne.symm hb, hc⟩
      · refine ⟨b :: run, rest, rfl, by simp, ?_, hc⟩
        rw [List.mem_cons, not_or]
        exact ⟨Ne.symm hb, hzero⟩
    · rintro ⟨run, rest, hcut, hne, hzero, hc⟩
      obtain ⟨c, run, rfl⟩ := List.exists_cons_of_ne_nil hne
      rw [List.cons_append, List.cons.injEq] at hcut
      obtain ⟨rfl, rfl⟩ := hcut
      rw [List.mem_cons, not_or] at hzero
      refine ⟨Ne.symm hzero.1, ?_⟩
      rcases run with _ | ⟨d, run⟩
      · exact Or.inl hc
      · exact Or.inr ⟨d :: run, rest, rfl, by simp, hzero.2, hc⟩

variable {control : UInt8} {layout : List Token} {bytes : Bytes}

lemma accepts_zero_iff : accepts control (.zero :: layout) bytes = true ↔
    ∃ rest, bytes = 0 :: rest ∧ accepts control layout rest = true := by
  cases bytes <;> simp [accepts]

lemma accepts_control_iff : accepts control (.control :: layout) bytes = true ↔
    ∃ rest, bytes = control :: rest ∧ accepts control layout rest = true := by
  cases bytes <;> simp [accepts]

lemma accepts_byte_iff : accepts control (.byte :: layout) bytes = true ↔
    ∃ b rest, bytes = b :: rest ∧ accepts control layout rest = true := by
  cases bytes <;> simp [accepts]

lemma accepts_nil_iff : accepts control [] bytes = true ↔ bytes = [] := by
  simp [accepts]

lemma accepts_last_run : accepts control [.run] bytes = true := by
  simp [accepts]

lemma accepts_run_iff (h : layout ≠ []) : accepts control (.run :: layout) bytes = true ↔
    ∃ run rest, bytes = run ++ rest ∧ run ≠ [] ∧ 0 ∉ run ∧
      accepts control layout rest = true := by
  rw [accepts, List.isEmpty_eq_false_iff.mpr h, Bool.false_or, acceptsRun_iff]

end Token

/-! ## The shapes of the kinds -/

/-- A request is its opcode and two texts, each ended by a zero byte. -/
lemma accepts_request_iff {opcode : UInt8} {datagram : Bytes} :
    Token.accepts opcode [.zero, .control, .run, .zero, .run, .zero] datagram = true ↔
      ∃ name mode : Bytes, datagram = 0 :: opcode :: (name ++ 0 :: (mode ++ [0])) ∧
        name ≠ [] ∧ 0 ∉ name ∧ mode ≠ [] ∧ 0 ∉ mode := by
  simp only [Token.accepts_zero_iff, Token.accepts_control_iff, Token.accepts_nil_iff,
    Token.accepts_run_iff (List.cons_ne_nil _ _)]
  constructor
  · rintro ⟨-, rfl, -, rfl, name, -, rfl, hname, hname', -, rfl, mode, -, rfl, hmode, hmode',
      -, rfl, rfl⟩
    exact ⟨name, mode, rfl, hname, hname', hmode, hmode'⟩
  · rintro ⟨name, mode, rfl, hname, hname', hmode, hmode'⟩
    exact ⟨_, rfl, _, rfl, name, _, rfl, hname, hname', _, rfl, mode, _, rfl, hmode, hmode',
      _, rfl, rfl⟩

namespace Kind

variable {datagram : Bytes}

lemma fits_data_iff : data.fits datagram = true ↔
    ∃ hi lo payload, datagram = 0 :: 3 :: hi :: lo :: payload := by
  simp only [fits, layout?, opcode?, Token.accepts_zero_iff, Token.accepts_control_iff,
    Token.accepts_byte_iff, Token.accepts_last_run, and_true]
  constructor
  · rintro ⟨-, rfl, -, rfl, hi, -, rfl, lo, payload, rfl⟩
    exact ⟨hi, lo, payload, rfl⟩
  · rintro ⟨hi, lo, payload, rfl⟩
    exact ⟨_, rfl, _, rfl, hi, _, rfl, lo, payload, rfl⟩

lemma fits_ack_iff : ack.fits datagram = true ↔ ∃ hi lo, datagram = [0, 4, hi, lo] := by
  simp only [fits, layout?, opcode?, Token.accepts_zero_iff, Token.accepts_control_iff,
    Token.accepts_byte_iff, Token.accepts_nil_iff]
  constructor
  · rintro ⟨-, rfl, -, rfl, hi, -, rfl, lo, -, rfl, rfl⟩
    exact ⟨hi, lo, rfl⟩
  · rintro ⟨hi, lo, rfl⟩
    exact ⟨_, rfl, _, rfl, hi, _, rfl, lo, _, rfl, rfl⟩

lemma fits_error_iff : error.fits datagram = true ↔
    ∃ hi lo text, datagram = 0 :: 5 :: hi :: lo :: (text ++ [0]) ∧ text ≠ [] ∧ 0 ∉ text := by
  simp only [fits, layout?, opcode?, Token.accepts_zero_iff, Token.accepts_control_iff,
    Token.accepts_byte_iff, Token.accepts_nil_iff, Token.accepts_run_iff (List.cons_ne_nil _ _)]
  constructor
  · rintro ⟨-, rfl, -, rfl, hi, -, rfl, lo, -, rfl, text, -, rfl, htext, htext', -, rfl, rfl⟩
    exact ⟨hi, lo, text, rfl, htext, htext'⟩
  · rintro ⟨hi, lo, text, rfl, htext, htext'⟩
    exact ⟨_, rfl, _, rfl, hi, _, rfl, lo, _, rfl, text, _, rfl, htext, htext', _, rfl, rfl⟩

/-! ## The kind of a datagram -/

/-- The second byte of a datagram that fits a kind is the opcode of the kind. -/
lemma opcode_of_fits {kind : Kind} (h : kind.fits datagram = true) :
    kind.opcode?.isSome ∧ datagram[1]? = kind.opcode? := by
  cases kind with
  | unknown => simp [fits, layout?] at h
  | _ =>
    simp only [fits, layout?, opcode?, Token.accepts_zero_iff, Token.accepts_control_iff] at h
    obtain ⟨-, rfl, -, rfl, -⟩ := h
    exact ⟨rfl, rfl⟩

lemma eq_of_opcode {kind other : Kind} (h : kind.opcode? = other.opcode?)
    (known : kind.opcode?.isSome) : kind = other := by
  cases kind <;> cases other <;> simp_all [opcode?]

/-- No datagram fits two kinds. -/
lemma eq_of_fits {kind other : Kind} (h : kind.fits datagram = true)
    (h' : other.fits datagram = true) : kind = other := by
  obtain ⟨known, opcode⟩ := opcode_of_fits h
  obtain ⟨-, opcode'⟩ := opcode_of_fits h'
  exact eq_of_opcode (opcode.symm.trans opcode') known

lemma fits_of_find {kind : Kind} (h : (wire.find? fun kind => kind.fits datagram) = some kind) :
    kind.fits datagram = true := by
  simpa using List.find?_some h

lemma mem_wire_of_fits {kind : Kind} (h : kind.fits datagram = true) : kind ∈ wire := by
  cases kind <;> simp_all [wire, fits, layout?]

end Kind

/-- A datagram is of a kind exactly if it is not too long and fits the kind. -/
lemma classify_eq_iff {kind : Kind} (known : kind ≠ .unknown) {datagram : Bytes} :
    classify datagram = kind ↔
      datagram.length ≤ maxDatagram ∧ kind.fits datagram = true := by
  unfold classify
  split
  next long =>
    constructor
    · intro h
      exact absurd h.symm known
    · rintro ⟨short, -⟩
      omega
  next short =>
    constructor
    · intro h
      refine ⟨by omega, ?_⟩
      rcases hfind : Kind.wire.find? fun kind => kind.fits datagram with _ | found
      · rw [hfind] at h
        exact absurd h.symm known
      · rw [hfind, Option.getD_some] at h
        exact h ▸ Kind.fits_of_find hfind
    · -- the search finds a kind, and no datagram fits two
      rintro ⟨-, h⟩
      rcases hfind : Kind.wire.find? fun kind => kind.fits datagram with _ | found
      · exact absurd h (List.find?_eq_none.mp hfind kind (Kind.mem_wire_of_fits h))
      · rw [hfind, Option.getD_some]
        exact Kind.eq_of_fits (Kind.fits_of_find hfind) h

lemma classify_of_long {datagram : Bytes} (long : maxDatagram < datagram.length) :
    classify datagram = .unknown := by
  rw [classify, if_pos long]

/-- A datagram with another opcode is of another kind. -/
lemma classify_ne_of_opcode {kind : Kind} (known : kind ≠ .unknown) {datagram : Bytes}
    (opcode : datagram[1]? ≠ kind.opcode?) : classify datagram ≠ kind := by
  intro h
  obtain ⟨-, fits⟩ := (classify_eq_iff known).mp h
  exact opcode (Kind.opcode_of_fits fits).2

end Lockstep
