import Mathlib.Data.List.DropRight

/-!
# Paths

POSIX paths as texts. A text without a slash that is neither empty nor one of the two
dots names a direct child of any directory, and `basename` gives the name back.
-/

namespace Paths

/-- `os.path.join(dir, name)`. -/
def join (dir name : String) : String :=
  if name.toList.head? = some '/' then name
  else if dir = "" ∨ dir.toList.getLast? = some '/' then dir ++ name
  else dir ++ "/" ++ name

/-- The part of a path after its last slash. -/
def basename (path : String) : String := String.ofList (path.toList.rtakeWhile (· ≠ '/'))

/-- A text that the file system takes as the name of one entry of a directory. -/
structure IsName (name : String) : Prop where
  nonempty : name ≠ ""
  here : name ≠ "."
  parent : name ≠ ".."
  slash : '/' ∉ name.toList
  nul : Char.ofNat 0 ∉ name.toList

/-- The path names an entry of the directory itself. -/
def DirectChild (dir path : String) : Prop := ∃ name, IsName name ∧ path = join dir name

section Join

variable {dir name : String}

theorem rtakeWhile_of_all {cs : List Char} (slash : '/' ∉ cs) : cs.rtakeWhile (· ≠ '/') = cs := by
  rw [List.rtakeWhile_eq_self_iff]
  intro c member
  have other : c ≠ '/' := by
    rintro rfl
    exact slash member
  simpa using other

/-- The last name of a path is what was joined last. -/
theorem basename_join (dir : String) (slash : '/' ∉ name.toList) : basename (join dir name) = name := by
  have tail : ∀ front : List Char, (front = [] ∨ front.getLast? = some '/') →
      (front ++ name.toList).rtakeWhile (· ≠ '/') = name.toList := by
    intro front ends
    rcases ends with rfl | ends
    · exact rtakeWhile_of_all slash
    · obtain ⟨start, rfl⟩ := List.getLast?_eq_some_iff.1 ends
      unfold List.rtakeWhile
      rw [List.append_assoc, List.reverse_append, List.reverse_append, List.append_assoc,
        List.takeWhile_append_of_pos]
      · simp
      · intro c member
        have other : c ≠ '/' := by
          rintro rfl
          exact slash (List.mem_reverse.1 member)
        simpa using other
  have relative : name.toList.head? ≠ some '/' := by
    intro first
    exact slash (List.mem_of_head? first)
  unfold basename join
  rw [if_neg relative]
  split
  · rename_i ends
    rw [String.toList_append, tail, String.ofList_toList]
    rcases ends with rfl | ends
    · exact .inl rfl
    · exact .inr ends
  · rw [String.toList_append, tail, String.ofList_toList]
    right
    simp

/-- A name in a directory is a direct child of it. -/
theorem IsName.child (isName : IsName name) (dir : String) : DirectChild dir (join dir name) := ⟨name, isName, rfl⟩

/-- The text has no slash and no NUL. -/
def plain (text : String) : Bool := text.toList.all fun c => c ≠ '/' && c ≠ Char.ofNat 0

@[simp] theorem plain_append (front back : String) : plain (front ++ back) = (plain front && plain back) := by
  unfold plain
  rw [String.toList_append, List.all_append]

theorem not_mem_of_plain (isPlain : plain name = true) : '/' ∉ name.toList ∧ Char.ofNat 0 ∉ name.toList := by
  have each := List.all_eq_true.1 isPlain
  constructor
  · intro member
    exact absurd (each _ member) (by decide)
  · intro member
    exact absurd (each _ member) (by decide)

/-- A text without slash and NUL, with a character that is no dot, is a name. -/
theorem IsName.of_plain (isPlain : plain name = true) {c : Char} (member : c ∈ name.toList) (letter : c ≠ '.') :
    IsName name := by
  obtain ⟨slash, nul⟩ := not_mem_of_plain isPlain
  refine ⟨?_, ?_, ?_, slash, nul⟩
  · rintro rfl
    cases member
  · rintro rfl
    exact letter (List.mem_singleton.1 member)
  · rintro rfl
    have both : c = '.' ∨ c = '.' := by simpa using member
    exact letter (or_self_iff.1 both)

end Join

/-! ## Temporary files -/

/-- What `tempfile` puts into a name: eight of its characters. -/
structure RandomName where
  text : String
  chars : text.toList.all (fun c => ('a' ≤ c && c ≤ 'z') || ('0' ≤ c && c ≤ '9') || c == '_') = true
  length : text.length = 8

/-- The random part of a temporary name has no separators. -/
theorem RandomName.plain (random : RandomName) : plain random.text = true := by
  apply List.all_eq_true.2
  intro c member
  have classified := List.all_eq_true.1 random.chars c member
  by_cases slash : c = '/'
  · subst slash
    exact absurd classified (by decide)
  · by_cases nul : c = Char.ofNat 0
    · subst nul
      exact absurd classified (by decide)
    · simp [slash, nul]

/-- `NamedTemporaryFile` with a directory and the two ends of the name. -/
def tempPath (dir start : String) (random : RandomName) (ending : String) : String :=
  join dir (start ++ random.text ++ ending)

end Paths
