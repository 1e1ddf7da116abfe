/-
# The languages of the kinds

The grammar of datagrams, written down without the search for the ends of texts: which bytes a
datagram of each kind has, and how many it may have.  Telling the kind of a datagram decides
exactly these languages.

No two of the languages have a datagram in common, and the layouts have none in common either.
So it does not matter in which order the kinds are tried.
-/
import Lockstep.Proofs.Packet.Layout
import Mathlib.Data.List.Basic

namespace Lockstep

/-- A text as it stands in a datagram: it says something, and no byte of it is the zero byte that
ends it. -/
structure IsText (bytes : Bytes) : Prop where
  nonempty : bytes ≠ []
  noZero : 0 ∉ bytes

namespace Kind

/-- The datagrams that ask for a transfer: an opcode, the name of a file, and a mode. -/
def IsRequest (opcode : UInt8) (datagram : Bytes) : Prop :=
  datagram.length ≤ 516 ∧ ∃ name mode,
    datagram = [0, opcode] ++ name ++ [0] ++ mode ++ [0] ∧ IsText name ∧ IsText mode

/-- The datagrams that carry a block: a header of four bytes, and any content. -/
def IsData (datagram : Bytes) : Prop :=
  4 ≤ datagram.length ∧ datagram.length ≤ 516 ∧ [0, 3] <+: datagram

/-- The datagrams that acknowledge a block: a header of four bytes. -/
def IsAck (datagram : Bytes) : Prop := datagram.length = 4 ∧ [0, 4] <+: datagram

/-- The datagrams that tell of a failure: a code of two bytes, and a message. -/
def IsError (datagram : Bytes) : Prop :=
  datagram.length ≤ 516 ∧ ∃ hi lo message,
    datagram = [0, 5, hi, lo] ++ message ++ [0] ∧ IsText message

/-- The language of a kind.  What is in none of the others is unknown. -/
def Language : Kind → Bytes → Prop
  | readRequest, datagram => IsRequest 1 datagram
  | writeRequest, datagram => IsRequest 2 datagram
  | data, datagram => IsData datagram
  | ack, datagram => IsAck datagram
  | error, datagram => IsError datagram
  | unknown, datagram => ¬ (IsRequest 1 datagram ∨ IsRequest 2 datagram ∨ IsData datagram ∨
      IsAck datagram ∨ IsError datagram)

variable {datagram : Bytes}

/-! ## The languages of the layouts -/

lemma isRequest_iff {opcode : UInt8} : IsRequest opcode datagram ↔
    datagram.length ≤ maxDatagram ∧
      Token.accepts opcode [.zero, .control, .run, .zero, .run, .zero] datagram = true := by
  rw [accepts_request_iff]
  refine and_congr_right fun _ => ?_
  constructor
  · rintro ⟨name, mode, rfl, hname, hmode⟩
    exact ⟨name, mode, by simp, hname.nonempty, hname.noZero, hmode.nonempty, hmode.noZero⟩
  · rintro ⟨name, mode, rfl, hname, hname', hmode, hmode'⟩
    exact ⟨name, mode, by simp, ⟨hname, hname'⟩, ⟨hmode, hmode'⟩⟩

lemma isData_iff : IsData datagram ↔
    datagram.length ≤ maxDatagram ∧ data.fits datagram = true := by
  rw [fits_data_iff]
  constructor
  · rintro ⟨long, short, rest, rfl⟩
    -- behind the opcode there are at least the two bytes of the number
    obtain ⟨hi, rest, rfl⟩ : ∃ hi tail, rest = hi :: tail :=
      List.exists_cons_of_ne_nil fun none => by simp [none] at long
    obtain ⟨lo, rest, rfl⟩ : ∃ lo tail, rest = lo :: tail :=
      List.exists_cons_of_ne_nil fun none => by simp [none] at long
    exact ⟨short, hi, lo, rest, rfl⟩
  · rintro ⟨short, hi, lo, payload, rfl⟩
    exact ⟨by simp, short, hi :: lo :: payload, rfl⟩

lemma isAck_iff : IsAck datagram ↔
    datagram.length ≤ maxDatagram ∧ ack.fits datagram = true := by
  rw [fits_ack_iff]
  constructor
  · rintro ⟨four, rest, rfl⟩
    have two : rest.length = 2 := by simpa using four
    obtain ⟨hi, lo, rfl⟩ := List.length_eq_two.mp two
    exact ⟨by simp [maxDatagram, headerLength], hi, lo, rfl⟩
  · rintro ⟨-, hi, lo, rfl⟩
    exact ⟨rfl, [hi, lo], rfl⟩

lemma isError_iff : IsError datagram ↔
    datagram.length ≤ maxDatagram ∧ error.fits datagram = true := by
  rw [fits_error_iff]
  refine and_congr_right fun _ => ?_
  constructor
  · rintro ⟨hi, lo, message, rfl, hmessage⟩
    exact ⟨hi, lo, message, rfl, hmessage.nonempty, hmessage.noZero⟩
  · rintro ⟨hi, lo, message, rfl, hmessage, hmessage'⟩
    exact ⟨hi, lo, message, rfl, ⟨hmessage, hmessage'⟩⟩

/-- A kind that exists on the wire has the datagrams that fit it and are not too long. -/
lemma language_iff_fits {kind : Kind} (known : kind ≠ unknown) :
    kind.Language datagram ↔ datagram.length ≤ maxDatagram ∧ kind.fits datagram = true := by
  cases kind with
  | readRequest => exact isRequest_iff
  | writeRequest => exact isRequest_iff
  | data => exact isData_iff
  | ack => exact isAck_iff
  | error => exact isError_iff
  | unknown => exact absurd rfl known

lemma language_unknown_iff :
    unknown.Language datagram ↔ ∀ kind, kind ≠ unknown → ¬ kind.Language datagram := by
  constructor
  · rintro none kind known language
    cases kind with
    | unknown => exact known rfl
    | _ => exact none (by simp_all [Language])
  · rintro none (language | language | language | language | language)
    · exact none readRequest (by simp) language
    · exact none writeRequest (by simp) language
    · exact none data (by simp) language
    · exact none ack (by simp) language
    · exact none error (by simp) language

end Kind

/-- Telling the kind of a datagram decides the languages. -/
lemma classify_iff_language {datagram : Bytes} {kind : Kind} :
    classify datagram = kind ↔ kind.Language datagram := by
  by_cases known : kind = .unknown
  · subst known
    rw [Kind.language_unknown_iff]
    -- unknown is what is of no other kind
    constructor
    · intro unknown other known language
      rw [(classify_eq_iff known).mpr ((Kind.language_iff_fits known).mp language)] at unknown
      exact known unknown
    · intro none
      by_contra known
      exact none _ known ((Kind.language_iff_fits known).mpr ((classify_eq_iff known).mp rfl))
  · rw [classify_eq_iff known, Kind.language_iff_fits known]

/-! ## The order of the kinds -/

/-- The kind of a datagram, told by trying kinds in the given order. -/
def classifyBy (order : List Kind) (datagram : Bytes) : Kind :=
  if datagram.length > maxDatagram then .unknown
  else (order.find? fun kind => kind.fits datagram).getD .unknown

/-- The first kind that fits is the only one, so it is found in whatever order the kinds are
tried. -/
lemma find?_fits_of_perm {order : List Kind} (perm : order.Perm Kind.wire) (datagram : Bytes) :
    order.find? (fun kind => kind.fits datagram)
      = Kind.wire.find? fun kind => kind.fits datagram := by
  rcases hfind : Kind.wire.find? fun kind => kind.fits datagram with _ | found
  · have none := List.find?_eq_none.mp hfind
    rw [hfind, List.find?_eq_none]
    intro kind mem
    exact none kind (perm.mem_iff.mp mem)
  · have fits := Kind.fits_of_find hfind
    rcases horder : order.find? fun kind => kind.fits datagram with _ | other
    · have none := List.find?_eq_none.mp horder
      exact absurd fits (none found (perm.mem_iff.mpr (Kind.mem_wire_of_fits fits)))
    · have fits' : other.fits datagram = true := by simpa using List.find?_some horder
      rw [horder, hfind, Kind.eq_of_fits fits' fits]

/-- Telling the kind of a datagram decides the grammar: it answers each kind exactly for the
language of the kind.  The languages are pairwise disjoint, and the kinds can be tried in any
order. -/
theorem classify_decides_grammar :
    (∀ datagram kind, classify datagram = kind ↔ kind.Language datagram) ∧
    (Kind.wire.Pairwise fun kind other =>
      ∀ datagram, ¬ (kind.Language datagram ∧ other.Language datagram)) ∧
    ∀ order : List Kind, order.Perm Kind.wire → classifyBy order = classify := by
  refine ⟨fun _ _ => classify_iff_language, ?_, ?_⟩
  · have distinct : Kind.wire.Pairwise (· ≠ ·) := by decide
    refine distinct.imp fun ne datagram both => ne ?_
    rw [← classify_iff_language.mpr both.1, classify_iff_language.mpr both.2]
  · intro order perm
    funext datagram
    rw [classifyBy, find?_fits_of_perm perm]
    rfl

/-- The shortest block, whichever end of the list of kinds is tried first. -/
theorem classify_decides_grammar_empty_block :
    Kind.data.Language [0, 3, 0, 1] ∧ ¬ Kind.ack.Language [0, 3, 0, 1] ∧
      Kind.wire.reverse.Perm Kind.wire ∧ classifyBy Kind.wire.reverse [0, 3, 0, 1] = .data := by
  obtain ⟨language, disjoint, order⟩ := classify_decides_grammar
  have data : Kind.data.Language [0, 3, 0, 1] := (language _ _).mp (by decide)
  refine ⟨data, ?_, List.reverse_perm _, ?_⟩
  · intro ack
    exact absurd ((language _ _).mpr ack) (by decide)
  · rw [order _ (List.reverse_perm _)]
    exact (language _ _).mpr data

end Lockstep
