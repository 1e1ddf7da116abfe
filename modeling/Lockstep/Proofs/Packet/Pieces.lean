/-
# Cutting bytes into pieces

What it means to follow a layout can be said without any search: the bytes are some pieces one
behind the other, one piece for each token, and each token may stand for its piece.  Only a run
has pieces of more than one length, and only whether it is the last token of the layout decides
which.

The search for the ends of the runs decides exactly this, for every layout: also where a run
follows a run, or where what comes behind a run could be taken for a part of it.  It tries the
nearest end first, and takes back what it tried if the tokens that follow cannot be satisfied, so
it finds a way to cut the bytes if there is one.
-/
import Lockstep.Proofs.Packet.Positions

namespace Lockstep.Token

/-- Pieces, one for each token of a layout, each of which its token may stand for. -/
structure Cut (control : UInt8) (layout : List Token) (pieces : List Bytes) : Prop where
  count : pieces.length = layout.length
  spells : ∀ (place : Nat) (token : Token) (piece : Bytes), layout[place]? = some token →
    pieces[place]? = some piece → token.Spells control (place + 1 = layout.length) piece

variable {control : UInt8} {token : Token} {layout : List Token} {bytes : Bytes}

/-! ## The first piece -/

/-- A layout is accepted if a front part can stand for its first token, and what is left is
accepted by the rest of the layout. -/
lemma accepts_cons_iff : accepts control (token :: layout) bytes = true ↔
    ∃ front rest, bytes = front ++ rest ∧ token.Spells control layout.isEmpty front ∧
      accepts control layout rest = true := by
  cases token with
  | zero =>
    rw [accepts_zero_iff]
    constructor
    · rintro ⟨rest, rfl, accepted⟩
      exact ⟨[0], rest, rfl, rfl, accepted⟩
    · rintro ⟨-, rest, rfl, rfl, accepted⟩
      exact ⟨rest, rfl, accepted⟩
  | control =>
    rw [accepts_control_iff]
    constructor
    · rintro ⟨rest, rfl, accepted⟩
      exact ⟨[control], rest, rfl, rfl, accepted⟩
    · rintro ⟨-, rest, rfl, rfl, accepted⟩
      exact ⟨rest, rfl, accepted⟩
  | byte =>
    rw [accepts_byte_iff]
    constructor
    · rintro ⟨b, rest, rfl, accepted⟩
      exact ⟨[b], rest, rfl, ⟨b, rfl⟩, accepted⟩
    · rintro ⟨-, rest, rfl, ⟨b, rfl⟩, accepted⟩
      exact ⟨b, rest, rfl, accepted⟩
  | run =>
    by_cases last : layout = []
    · subst last
      -- the last run takes whatever is left
      refine iff_of_true accepts_last_run ⟨bytes, [], ?_, .inl rfl, accepts_nil_iff.mpr rfl⟩
      rw [List.append_nil]
    · rw [accepts_run_iff last]
      have goesOn : layout.isEmpty = false := List.isEmpty_eq_false_iff.mpr last
      simp [Spells, goesOn, and_assoc]

lemma follows_nil_iff : Follows control [] bytes ↔ bytes = [] := by
  constructor
  · rintro ⟨⟩
    rfl
  · rintro rfl
    exact .done

lemma follows_cons_iff : Follows control (token :: layout) bytes ↔
    ∃ front rest, bytes = front ++ rest ∧ token.Spells control layout.isEmpty front ∧
      Follows control layout rest := by
  constructor
  · rintro ⟨⟩
    exact ⟨_, _, rfl, ‹_›, ‹_›⟩
  · rintro ⟨front, rest, rfl, spells, follows⟩
    exact .piece spells follows

lemma cut_nil_iff {pieces : List Bytes} : Cut control [] pieces ↔ pieces = [] := by
  constructor
  · rintro ⟨count, -⟩
    exact List.length_eq_zero_iff.mp count
  · rintro rfl
    exact ⟨rfl, by simp⟩

/-- The first token of a layout is its last one if nothing follows. -/
lemma first_last_iff (token : Token) (layout : List Token) :
    decide (0 + 1 = (token :: layout).length) = layout.isEmpty := by
  cases layout <;> simp

lemma cut_cons_iff {pieces : List Bytes} : Cut control (token :: layout) pieces ↔
    ∃ front rest, pieces = front :: rest ∧ token.Spells control layout.isEmpty front ∧
      Cut control layout rest := by
  constructor
  · rintro ⟨count, spells⟩
    obtain ⟨front, rest, rfl⟩ := List.exists_cons_of_length_eq_add_one count
    refine ⟨front, rest, rfl, ?_, by simpa using count, fun place token piece => ?_⟩
    · rw [← first_last_iff token]
      exact spells 0 token front rfl rfl
    · simpa using spells (place + 1) token piece
  · rintro ⟨front, rest, rfl, spells, count, follow⟩
    refine ⟨by simp [count], fun place token piece => ?_⟩
    rcases place with _ | place
    · rintro ⟨⟩ ⟨⟩
      rwa [first_last_iff]
    · simpa using follow place token piece

/-! ## All pieces -/

/-- What is accepted is what follows the layout. -/
lemma accepts_iff_follows : accepts control layout bytes = true ↔ Follows control layout bytes := by
  induction layout generalizing bytes with
  | nil => rw [accepts_nil_iff, follows_nil_iff]
  | cons token layout ih => simp only [accepts_cons_iff, follows_cons_iff, ih]

/-- The bytes follow a layout if they can be cut into pieces for its tokens. -/
lemma follows_iff_cut : Follows control layout bytes ↔
    ∃ pieces, pieces.flatten = bytes ∧ Cut control layout pieces := by
  induction layout generalizing bytes with
  | nil => simp [follows_nil_iff, cut_nil_iff, eq_comm]
  | cons token layout ih =>
    simp only [follows_cons_iff, cut_cons_iff, ih]
    constructor
    · rintro ⟨front, -, rfl, spells, pieces, rfl, cut⟩
      exact ⟨front :: pieces, List.flatten_cons, front, pieces, rfl, spells, cut⟩
    · rintro ⟨-, rfl, front, pieces, rfl, spells, cut⟩
      exact ⟨front, pieces.flatten, List.flatten_cons, spells, pieces, rfl, cut⟩

/-- From any position of any bytes on, the search for the ends of the runs of any layout comes to
an answer, and never looks behind the last byte.  The answer is that of cutting pieces off the bytes
from there on, and it is yes exactly if these bytes can be cut into pieces, one for each token of
the layout, that the tokens may stand for. -/
theorem search_decides_cuts (control : UInt8) (layout : List Token) (bytes : Bytes)
    (position : Nat) (inside : position ≤ bytes.length) :
    ∃ answer, acceptsAt? control bytes layout position = some answer ∧
      accepts control layout (bytes.drop position) = answer ∧
      (answer = true ↔
        ∃ pieces, pieces.flatten = bytes.drop position ∧ Cut control layout pieces) :=
  ⟨_, acceptsAt?_eq layout inside, rfl, accepts_iff_follows.trans follows_iff_cut⟩

/-- Two runs one behind the other, of which the second is longer than its nearest end would have
it: behind that end the last token does not stand for what is there. -/
theorem search_decides_cuts_adjacent_runs :
    1 ≤ [9, 7, 7, 7, 0, 4].length ∧
      acceptsAt? 4 [9, 7, 7, 7, 0, 4] [.run, .run, .byte, .control] 1 = some true ∧
      ∃ pieces, pieces.flatten = [7, 7, 7, 0, 4] ∧
        Cut 4 [.run, .run, .byte, .control] pieces := by
  obtain ⟨answer, found, same, cuts⟩ :=
    search_decides_cuts 4 [.run, .run, .byte, .control] [9, 7, 7, 7, 0, 4] 1 (by decide)
  obtain rfl : answer = true := same.symm.trans (by decide)
  exact ⟨by decide, found, cuts.mp rfl⟩

end Lockstep.Token
