/-
# The steps of a path

A path as text has parts between its slashes, and those that are not empty are the steps by which
it is followed.  Putting a name behind a directory puts its steps behind those of the directory,
so where a name below a directory leads is told by its own last step.

The last step of a staging path is the staging name, in which the number of the file can be read
from the end.  So staging paths with different numbers lead to different places.
-/
import Lockstep.Store.Directory
import Mathlib.Data.List.Basic

namespace Lockstep.Name

/-! ## Parts -/

lemma partsFrom_of_notMem {text : List Char} (plain : '/' ∉ text) (current : List Char) :
    partsFrom current text = [current.reverse ++ text] := by
  induction text generalizing current with
  | nil => simp [partsFrom]
  | cons c rest ih =>
    simp only [List.mem_cons, not_or] at plain
    rw [partsFrom, if_neg (Ne.symm plain.1), ih plain.2]
    simp

/-- A slash ends a part, whatever stands before and behind it. -/
lemma partsFrom_append_slash (current front back : List Char) :
    partsFrom current (front ++ '/' :: back) = partsFrom current front ++ partsFrom [] back := by
  induction front generalizing current with
  | nil => simp [partsFrom]
  | cons c front ih =>
    by_cases slash : c = '/'
    · simp [partsFrom, slash, ih]
    · simp [partsFrom, slash, ih]

/-- The first part goes on from what has been read of it. -/
lemma exists_partsFrom_eq (current text : List Char) :
    ∃ more others, partsFrom current text = (current.reverse ++ more) :: others := by
  induction text generalizing current with
  | nil => exact ⟨[], [], by simp [partsFrom]⟩
  | cons c rest ih =>
    by_cases slash : c = '/'
    · exact ⟨[], partsFrom [] rest, by simp [partsFrom, slash]⟩
    · obtain ⟨more, others, same⟩ := ih (c :: current)
      exact ⟨c :: more, others, by simp [partsFrom, slash, same]⟩

lemma notMem_of_mem_partsFrom {current text part : List Char} (plain : '/' ∉ current)
    (mem : part ∈ partsFrom current text) : '/' ∉ part := by
  induction text generalizing current with
  | nil =>
    obtain rfl := List.mem_singleton.mp mem
    simpa using plain
  | cons c rest ih =>
    by_cases slash : c = '/'
    · simp only [partsFrom, slash, if_true, List.mem_cons] at mem
      rcases mem with rfl | mem
      · simpa using plain
      · exact ih (by simp) mem
    · simp only [partsFrom, slash, if_false] at mem
      exact ih (by simpa using ⟨Ne.symm slash, plain⟩) mem

/-- No part of a path has a slash in it. -/
lemma slash_notMem_of_mem_parts {path part : String} (mem : part ∈ parts path) :
    '/' ∉ part.toList := by
  obtain ⟨chars, inside, rfl⟩ := List.mem_map.mp mem
  simpa using notMem_of_mem_partsFrom List.not_mem_nil inside

/-- A text without a slash is its own only part. -/
lemma parts_of_plain {text : String} (plain : '/' ∉ text.toList) : parts text = [text] := by
  simp only [parts, partsFrom_of_notMem plain, List.reverse_nil, List.nil_append, List.map_cons,
    String.ofList_toList, List.map_nil]

lemma parts_append_slash (front back : String) :
    parts (front ++ "/" ++ back) = parts front ++ parts back := by
  have chars : (front ++ "/" ++ back).toList = front.toList ++ '/' :: back.toList := by simp
  simp only [parts, chars, partsFrom_append_slash, List.map_append]

/-- The parts are what stands between the slashes. -/
lemma parts_eq_splitOn (name : String) :
    parts name = (name.toList.splitOn '/').map String.ofList := by
  have kept : List.modifyHead (fun part : List Char => part) = id := List.modifyHead_id
  have whole : ∀ current text : List Char,
      partsFrom current text = (text.splitOn '/').modifyHead (current.reverse ++ ·) := by
    intro current text
    rw [List.splitOn_eq_splitOnP]
    induction text generalizing current with
    | nil => simp [partsFrom]
    | cons c rest ih =>
      rw [List.splitOnP_cons_eq_if_modifyHead, partsFrom, ih, ih]
      by_cases slash : c = '/'
      · simp [slash, kept]
      · simp [slash, List.modifyHead_modifyHead, Function.comp_def]
  rw [parts, whole]
  simp [kept]

/-- A name leads out of its store if it begins with a slash or goes up. -/
lemma escapes_iff {name : String} :
    escapes name = true ↔
      name.toList.head? = some '/' ∨ ['.', '.'] ∈ name.toList.splitOn '/' := by
  have up : ".." = String.ofList ['.', '.'] := rfl
  rw [escapes, Bool.or_eq_true, isAbsolute, decide_eq_true_eq, List.contains_iff_mem,
    parts_eq_splitOn, up, List.mem_map_of_injective fun _ _ => String.ofList_inj.mp]

/-! ## Steps -/

/-- The steps by which a path is followed: its parts, the empty ones left out. -/
def steps (path : String) : List String := (parts path).filter (· ≠ "")

lemma steps_append_slash (front back : String) :
    steps (front ++ "/" ++ back) = steps front ++ steps back := by
  simp only [steps, parts_append_slash, List.filter_append]

/-- A text without a slash is one step. -/
lemma steps_of_plain {text : String} (plain : '/' ∉ text.toList) (nonempty : text ≠ "") :
    steps text = [text] := by
  simp [steps, parts_of_plain plain, nonempty]

/-- The steps of a name below a directory end with those of the name. -/
lemma suffix_steps_join (root name : String) : steps name <:+ steps (join root name) := by
  unfold join
  split_ifs with direct slash
  · exact List.suffix_rfl
  · -- the directory brings its own slash
    obtain ⟨front, rfl⟩ : ∃ front, root = front ++ "/" := by
      obtain ⟨chars, ends⟩ := List.getLast?_eq_some_iff.mp slash
      exact ⟨String.ofList chars, by rw [← String.toList_inj]; simpa using ends⟩
    rw [steps_append_slash]
    exact List.suffix_append _ _
  · rw [steps_append_slash]
    exact List.suffix_append _ _

/-- A name that has a step has the same last step below any directory. -/
lemma getLast?_steps_join {name : String} (step : steps name ≠ []) (root : String) :
    (steps (join root name)).getLast? = (steps name).getLast? := by
  obtain ⟨front, same⟩ := suffix_steps_join root name
  rw [← same, List.getLast?_append_of_ne_nil _ step]

/-- A name that is admitted has a step. -/
lemma steps_ne_nil_of_validate {name : String} (admitted : validate name = .ok ()) :
    steps name ≠ [] := by
  unfold validate at admitted
  split_ifs at admitted with empty outside
  rcases chars : name.toList with _ | ⟨c, rest⟩
  · exact absurd (by simpa using chars) empty
  · -- the first part begins with the first character, which is no slash
    have ne : c ≠ '/' := by
      rintro rfl
      simp [escapes, isAbsolute, chars] at outside
    obtain ⟨more, others, same⟩ := exists_partsFrom_eq [c] rest
    have first : String.ofList (c :: more) ∈ parts name := by
      simp [parts, chars, partsFrom, ne, same]
    have step : String.ofList (c :: more) ∈ steps name := by
      refine List.mem_filter.mpr ⟨first, ?_⟩
      simp [← String.toList_inj]
    exact List.ne_nil_of_mem step

/-- The last step that is split off a path is one of its parts. -/
lemma mem_parts_of_splitLast {path front last : String}
    (split : splitLast path = some (front, last)) : last ∈ parts path := by
  unfold splitLast at split
  split at split
  next lead body cut =>
    -- what is left behind the first part are parts of the path
    have sub : ∀ part ∈ body, part ∈ parts path := by
      split at cut
      all_goals
        cases cut
        simp_all
    split at split
    · cases split
    next step back rest =>
      split_ifs at split
      cases split
      have mem := (List.dropWhile_suffix (!isStep ·)).subset
        (show last ∈ body.reverse.dropWhile (!isStep ·) by rw [rest]; exact List.mem_cons_self)
      exact sub _ (List.mem_reverse.mp mem)

end Lockstep.Name

/-! ## Staging names -/

namespace Lockstep.DirectoryStore

lemma notMem_digits {c : Char} (other : c.isDigit = false) (number : Nat) :
    c ∉ Nat.toDigits 10 number := by
  intro mem
  rw [Nat.isDigit_of_mem_toDigits (by decide) (by decide) mem] at other
  cases other

/-- What stands behind the last place of a character is told by the whole. -/
lemma eq_behind_last {c : Char} {front front' back back' : List Char} (last : c ∉ back)
    (last' : c ∉ back') (same : front ++ c :: back = front' ++ c :: back') : back = back' := by
  rcases List.append_eq_append_iff.mp same with ⟨between, -, rest⟩ | ⟨between, -, rest⟩
  all_goals
    rcases between with _ | ⟨d, between⟩
    · simpa [eq_comm] using rest
    · simp_all

lemma toList_stagingName (fileName : String) (process number : Nat) :
    (stagingName fileName process number).toList
      = ('.' :: (fileName.toList ++ '.' :: Nat.toDigits 10 process)) ++
        '-' :: (Nat.toDigits 10 number ++ ['.', 'p', 'a', 'r', 't']) := by
  simp [stagingName]

/-- The number of a staging file is read from the end of its name. -/
lemma stagingName_inj {fileName other : String} {process number number' : Nat}
    (same : stagingName fileName process number = stagingName other process number') :
    number = number' := by
  have dash : ∀ number, '-' ∉ Nat.toDigits 10 number ++ ['.', 'p', 'a', 'r', 't'] := by
    intro number
    simp [notMem_digits]
  have chars := congrArg String.toList same
  rw [toList_stagingName, toList_stagingName] at chars
  have digits := List.append_cancel_right (eq_behind_last (dash _) (dash _) chars)
  simpa using congrArg (Nat.ofDigitChars 10 · 0) digits

lemma slash_notMem_stagingName {fileName : String} (plain : '/' ∉ fileName.toList)
    (process number : Nat) : '/' ∉ (stagingName fileName process number).toList := by
  simp [toList_stagingName, plain, notMem_digits]

/-- The last step to a staging file is its staging name. -/
lemma getLast?_steps_stagingPath (target : String) (process number : Nat) :
    ∃ fileName, (Name.steps (stagingPath target process number)).getLast?
      = some (stagingName fileName process number) := by
  have plain : '/' ∉ ((Name.splitLast target).getD (target, "")).2.toList := by
    rcases split : Name.splitLast target with _ | ⟨front, last⟩
    · simp
    · exact Name.slash_notMem_of_mem_parts (Name.mem_parts_of_splitLast split)
  have nonempty :
      stagingName ((Name.splitLast target).getD (target, "")).2 process number ≠ "" := by
    simp [← String.toList_inj, toList_stagingName]
  have step := Name.steps_of_plain (slash_notMem_stagingName plain process number) nonempty
  have path : stagingPath target process number =
      Name.join ((Name.splitLast target).getD (target, "")).1
        (stagingName ((Name.splitLast target).getD (target, "")).2 process number) := rfl
  refine ⟨((Name.splitLast target).getD (target, "")).2, ?_⟩
  rw [path, Name.getLast?_steps_join (step ▸ List.cons_ne_nil _ _), step]
  rfl

end Lockstep.DirectoryStore
