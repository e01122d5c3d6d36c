import Mathlib.Data.Option.Basic

/-!
# Directory trees

A directory is what there is at each path below it.  What a shell's `*` names are the entries of a
directory that do not begin with a dot; they can be copied over another directory or removed, and
what begins with a dot stays.
-/

namespace FileTree

abbrev Name := List UInt8

/-- A name in a directory and what comes behind it. -/
structure Path where
  first : Name
  rest : List Name
  deriving DecidableEq

inductive Entry where
  | file (bytes : List UInt8)
  | directory
  deriving DecidableEq

abbrev Dir := Path → Option Entry

def dot : UInt8 := 46

def Hidden (name : Name) : Prop := name.head? = some dot

instance (name : Name) : Decidable (Hidden name) := inferInstanceAs (Decidable (_ = _))

namespace Dir

def empty : Dir := fun _ => none

/-- What `*` names, with everything below. -/
def visible (dir : Dir) : Dir := fun path => if Hidden path.first then none else dir path

def hidden (dir : Dir) : Dir := fun path => if Hidden path.first then dir path else none

/-- A copy of one directory over another. -/
def overlay (source target : Dir) : Dir := fun path => (source path).or (target path)

/-- The directory of that name. -/
def below (dir : Dir) (name : Name) : Dir := fun path => dir ⟨name, path.first :: path.rest⟩

/-- The file of that name. -/
def fileAt (dir : Dir) (name : Name) : Option (List UInt8) :=
  match dir ⟨name, []⟩ with
  | some (.file bytes) => some bytes
  | some .directory | none => none

variable {source target dir : Dir}

@[simp] theorem visible_visible : dir.visible.visible = dir.visible := by
  funext path
  by_cases begins : Hidden path.first <;> simp [visible, begins]

@[simp] theorem visible_hidden : dir.hidden.visible = empty := by
  funext path
  by_cases begins : Hidden path.first <;> simp [visible, hidden, empty, begins]

@[simp] theorem visible_overlay :
    (overlay source target).visible = overlay source.visible target.visible := by
  funext path
  by_cases begins : Hidden path.first <;> simp [visible, overlay, begins]

@[simp] theorem overlay_empty : overlay source empty = source := by
  funext path
  simp [overlay, empty]

end Dir

end FileTree
