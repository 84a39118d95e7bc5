/-!
# File trees

Data files are read from a tree of files and directories. A tree is given by what stands at some
paths; above each of them there are directories, whether they are listed or not. A path is a list
of names, and in its written form the names are separated by strokes.

A name is any string of bytes (`FileName`). Most names are texts, but a tree may also hold names
that are none, and directories are gone through in the order of the bytes.
-/

namespace TextRecipes

/-- The name of a file or directory. -/
structure FileName where
  bytes : List UInt8
deriving DecidableEq, Inhabited

namespace FileName

def ofText (s : String) : FileName := ⟨s.toUTF8.data.toList⟩

/-- The text of a name, if it is one. -/
def text? (name : FileName) : Option String := String.fromUTF8? ⟨name.bytes.toArray⟩

instance : Append FileName := ⟨fun a b => ⟨a.bytes ++ b.bytes⟩⟩

instance : LT FileName := ⟨fun a b => a.bytes < b.bytes⟩

instance : LE FileName := ⟨fun a b => a.bytes ≤ b.bytes⟩

instance (a b : FileName) : Decidable (a < b) := inferInstanceAs (Decidable (a.bytes < b.bytes))

instance (a b : FileName) : Decidable (a ≤ b) := inferInstanceAs (Decidable (a.bytes ≤ b.bytes))

@[simp] theorem bytes_append (a b : FileName) : (a ++ b).bytes = a.bytes ++ b.bytes := rfl

theorem ofText_append (s t : String) : ofText (s ++ t) = ofText s ++ ofText t := by
  refine congrArg FileName.mk ?_
  rw [String.toUTF8, String.toByteArray_append, ByteArray.data_append, Array.toList_append]
  rfl

@[simp] theorem text?_ofText (s : String) : (ofText s).text? = some s := by
  have hvalid : s.toByteArray.IsValidUTF8 := s.isValidUTF8
  exact dif_pos hvalid

/-- A name that has a text is what the text writes. -/
theorem text?_eq_some {name : FileName} {s : String} : name.text? = some s ↔ name = ofText s := by
  constructor
  · intro h
    unfold text? String.fromUTF8? at h
    split at h
    · cases h
      rfl
    · cases h
  · rintro rfl
    exact text?_ofText s

theorem lt_of_not_lt_of_ne {a b : FileName} (h : ¬ a < b) (hne : a ≠ b) : b < a := by
  apply Decidable.byContradiction
  intro h'
  exact hne (congrArg FileName.mk (List.le_antisymm (List.not_lt.mp h') (List.not_lt.mp h)))

theorem le_of_lt {a b : FileName} (h : a < b) : a ≤ b := List.le_of_lt h

/-! ## Names in order -/

/-- Puts a name in its place among names in order, unless it is there. -/
def insertInto (name : FileName) : List FileName → List FileName
  | [] => [name]
  | other :: rest =>
    if name < other then name :: other :: rest
    else if name = other then other :: rest
    else other :: insertInto name rest

/-- The names of a list in order, each of them once. -/
def inOrder (names : List FileName) : List FileName := names.foldr insertInto []

theorem mem_insertInto {name other : FileName} {names : List FileName} :
    other ∈ insertInto name names ↔ other = name ∨ other ∈ names := by
  induction names with
  | nil => simp [insertInto]
  | cons first rest ih =>
      unfold insertInto
      split
      · exact List.mem_cons
      · split
        · next hsame =>
            subst hsame
            simp
        · simp only [List.mem_cons, ih]
          exact or_left_comm

@[simp] theorem mem_inOrder {name : FileName} {names : List FileName} :
    name ∈ inOrder names ↔ name ∈ names := by
  induction names with
  | nil => exact Iff.rfl
  | cons first rest ih => rw [inOrder, List.foldr_cons, mem_insertInto, List.mem_cons, ← ih]; rfl

theorem pairwise_insertInto (name : FileName) {names : List FileName}
    (h : names.Pairwise (· < ·)) : (insertInto name names).Pairwise (· < ·) := by
  induction names with
  | nil => exact List.pairwise_singleton _ _
  | cons first rest ih =>
      obtain ⟨hfirst, hrest⟩ := List.pairwise_cons.mp h
      unfold insertInto
      split
      · next hlt =>
          refine List.pairwise_cons.mpr ⟨fun other hother => ?_, h⟩
          rcases List.mem_cons.mp hother with rfl | hother
          · exact hlt
          · exact List.lt_trans hlt (hfirst other hother)
      · next hlt =>
          split
          · exact h
          · next hne =>
              refine List.pairwise_cons.mpr ⟨fun other hother => ?_, ih hrest⟩
              rcases mem_insertInto.mp hother with rfl | hother
              · exact lt_of_not_lt_of_ne hlt hne
              · exact hfirst other hother

theorem pairwise_inOrder (names : List FileName) : (inOrder names).Pairwise (· < ·) := by
  induction names with
  | nil => exact List.Pairwise.nil
  | cons first rest ih => exact pairwise_insertInto first ih

end FileName

/-- The way to a file or directory: names, outermost first. -/
abbrev Path := List FileName

namespace Path

/-- The path that a text writes. Empty names and single points lead nowhere else. -/
def ofText (s : String) : Path :=
  (((s.toList.splitOn '/').map String.ofList).filter fun name => name != "" && name != ".").map
    .ofText

/-- The text of the last name of a path. -/
def fileName (path : Path) : String := (path.getLast?.bind (·.text?)).getD ""

end Path

inductive FileNode where
  | file (bytes : ByteArray)
  | directory
deriving Inhabited

structure FileTree where
  /-- What stands at which path. Of two entries for one path the first counts. -/
  nodes : List (Path × FileNode) := []
deriving Inhabited

namespace FileTree

/-- What stands at a path. Whatever lies further in makes it a directory. -/
def node? (tree : FileTree) (path : Path) : Option FileNode :=
  match tree.nodes.lookup path with
  | some node => some node
  | none => if tree.nodes.any fun n => path.isPrefixOf n.1 then some .directory else none

def contains (tree : FileTree) (path : Path) : Bool := (tree.node? path).isSome

/-- The names in a directory, in order. -/
def list? (tree : FileTree) (path : Path) : Option (List FileName) :=
  match tree.node? path with
  | some .directory =>
    some (FileName.inOrder (tree.nodes.filterMap fun n =>
      if path.isPrefixOf n.1 then (n.1.drop path.length).head? else none))
  | _ => none

/-- The text of the file at a path, if there is a file and it holds text. -/
def readText? (tree : FileTree) (path : Path) : Option String :=
  match tree.node? path with
  | some (.file bytes) => String.fromUTF8? bytes
  | _ => none

/-- There is something at a path if it is listed or something lies further in. -/
theorem contains_iff {tree : FileTree} {path : Path} :
    tree.contains path = true ↔ ∃ n ∈ tree.nodes, path <+: n.1 := by
  unfold contains node?
  split
  · next node hlookup =>
      refine iff_of_true rfl ?_
      obtain ⟨before, after, hnodes, _⟩ := List.lookup_eq_some_iff.mp hlookup
      exact ⟨(path, node), hnodes ▸ List.mem_append_right _ List.mem_cons_self, List.prefix_rfl⟩
  · rw [Option.isSome_ite, List.any_eq_true]
    simp only [List.isPrefixOf_iff_prefix]

theorem node?_of_list? {tree : FileTree} {path : Path} {names : List FileName}
    (h : tree.list? path = some names) : tree.node? path = some .directory := by
  unfold list? at h
  split at h
  · assumption
  · cases h

/-- The names in a directory are those under which something is there. -/
theorem mem_of_list? {tree : FileTree} {path : Path} {names : List FileName}
    (h : tree.list? path = some names) (name : FileName) :
    name ∈ names ↔ tree.contains (path ++ [name]) = true := by
  unfold list? at h
  split at h
  · cases h
    rw [FileName.mem_inOrder, List.mem_filterMap, contains_iff]
    refine exists_congr fun n => and_congr_right fun _ => ?_
    rw [Option.ite_none_right_eq_some, List.isPrefixOf_iff_prefix]
    constructor
    · rintro ⟨⟨rest, hrest⟩, hhead⟩
      rw [← hrest, List.drop_left] at hhead
      obtain ⟨further, rfl⟩ := List.head?_eq_some_iff.mp hhead
      exact ⟨further, by rw [← hrest, List.append_assoc, List.singleton_append]⟩
    · rintro ⟨further, hfurther⟩
      rw [← hfurther, List.append_assoc, List.singleton_append]
      exact ⟨List.prefix_append _ _, by rw [List.drop_left, List.head?_cons]⟩
  · cases h

theorem pairwise_of_list? {tree : FileTree} {path : Path} {names : List FileName}
    (h : tree.list? path = some names) : names.Pairwise (· < ·) := by
  unfold list? at h
  split at h
  · cases h
    exact FileName.pairwise_inOrder _
  · cases h

end FileTree

end TextRecipes
