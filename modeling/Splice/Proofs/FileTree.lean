import Splice.FileTree

/-! # Reading and writing files

Whether a file can be written does not depend on what is written. Writing puts a file only where no
directory is, so every path leads where it led before, and only the file that is written changes.
-/

namespace Splice.FileTree

variable {tree : FileTree} {place target : List String} {path : String} {content : ByteArray}

/-- A path leads to a place. -/
def LeadsTo (tree : FileTree) (path : String) (place : List String) : Prop :=
  ∃ directory, tree.locate path = .ok (place, directory)

theorem LeadsTo.unique {other : List String} (leads : tree.LeadsTo path place)
    (otherwise : tree.LeadsTo path other) : place = other := by
  obtain ⟨_, located⟩ := leads
  obtain ⟨_, again⟩ := otherwise
  exact congrArg Prod.fst (Except.ok.inj (located.symm.trans again))

/-- The place of the file that is opened for writing under a path, which may be a new one. -/
def openForWriting (tree : FileTree) (path : String) : Except FileFault (List String) := do
  let (place, directory) ← tree.locate path
  match tree.at? place with
  | some .directory => .error .isADirectory
  | some (.file _) => if directory then .error .notADirectory else .ok place
  | none => if directory then .error .isADirectory else .ok place

/-- Writing fails only when the file is opened. -/
theorem writeText_eq (tree : FileTree) (path text : String) :
    tree.writeText path text =
      (tree.openForWriting path).map fun place => tree.put place (.file text.toUTF8) := by
  unfold writeText openForWriting
  cases tree.locate path with
  | error fault => rfl
  | ok found =>
    obtain ⟨place, directory⟩ := found
    simp only [bind, Except.bind]
    cases tree.at? place with
    | none => cases directory <;> rfl
    | some entry =>
      cases entry with
      | file content => cases directory <;> rfl
      | directory => rfl

theorem openForWriting_eq_ok_iff :
    tree.openForWriting path = .ok place ↔
      tree.locate path = .ok (place, false) ∧ tree.at? place ≠ some .directory := by
  unfold openForWriting
  cases tree.locate path with
  | error fault => simp [bind, Except.bind]
  | ok found =>
    obtain ⟨reached, directory⟩ := found
    simp only [bind, Except.bind, Except.ok.injEq, Prod.mk.injEq]
    constructor
    · intro opened
      cases found : tree.at? reached with
      | none => cases directory <;> simp_all
      | some entry => cases entry <;> cases directory <;> simp_all
    · rintro ⟨⟨rfl, rfl⟩, vacant⟩
      match found : tree.at? reached with
      | none => rfl
      | some (.file _) => rfl
      | some .directory => exact absurd found vacant

/-- A path that can be read names a file. -/
theorem readBytes_eq_ok_iff :
    tree.readBytes path = .ok content ↔
      ∃ place, tree.locate path = .ok (place, false) ∧ tree.at? place = some (.file content) := by
  unfold readBytes
  cases tree.locate path with
  | error fault => simp [bind, Except.bind]
  | ok found =>
    obtain ⟨reached, directory⟩ := found
    simp only [bind, Except.bind, Except.ok.injEq, Prod.mk.injEq]
    constructor
    · intro read
      cases found : tree.at? reached with
      | none => simp_all
      | some entry => cases entry <;> cases directory <;> simp_all
    · rintro ⟨_, ⟨rfl, rfl⟩, found⟩
      rw [found]
      rfl

/-- The root is a directory. -/
theorem ne_nil_of_vacant (vacant : tree.at? place ≠ some .directory) : place ≠ [] := by
  rintro rfl
  exact vacant rfl

/-- No directory is replaced, so the way along names is the same as before. -/
private theorem walk_put_eq_ok_iff (vacant : tree.at? target ≠ some .directory)
    {names : List String}
    {reached : List String} :
    (tree.put target (.file content)).walk place names = .ok reached ↔
      tree.walk place names = .ok reached := by
  induction names generalizing place with
  | nil => rfl
  | cons name rest ih =>
    unfold walk
    split
    · rfl
    · dsimp only
      split
      · rfl
      · by_cases here : enter place name = target
        · rw [here, at?_put_self _ _ (ne_nil_of_vacant vacant)]
          match found : tree.at? target with
          | none => simp
          | some (.file _) => simp
          | some .directory => exact absurd found vacant
        · rw [at?_put_of_ne _ _ here]
          match tree.at? (enter place name) with
          | none => rfl
          | some (.file _) => rfl
          | some .directory => exact ih

private theorem locate_put_eq_ok_iff (vacant : tree.at? target ≠ some .directory)
    {found : List String × Bool} :
    (tree.put target (.file content)).locate path = .ok found ↔ tree.locate path = .ok found := by
  have same := @walk_put_eq_ok_iff tree [] target content vacant (splitPath path).1
  unfold locate
  split
  · rfl
  split
  · rfl
  split
  · rfl
  dsimp only
  cases walked : tree.walk [] (splitPath path).1 with
  | ok reached => rw [same.mpr walked]
  | error fault =>
    cases otherWalked : (tree.put target (.file content)).walk [] (splitPath path).1 with
    | ok reached =>
      rw [same.mp otherWalked] at walked
      contradiction
    | error other => simp [Except.map]

/-- A file that was written holds what was written. -/
theorem readBytes_put_self (opened : tree.openForWriting path = .ok place) :
    (tree.put place (.file content)).readBytes path = .ok content := by
  obtain ⟨located, vacant⟩ := openForWriting_eq_ok_iff.mp opened
  exact readBytes_eq_ok_iff.mpr
    ⟨place, (locate_put_eq_ok_iff vacant).mpr located, at?_put_self _ _ (ne_nil_of_vacant vacant)⟩

/-- A path that leads elsewhere can be read after a file was written exactly if it could before, and
then it holds the same. -/
theorem readBytes_put_of_elsewhere (opened : tree.openForWriting path = .ok place)
    {other : String} {found : ByteArray} (elsewhere : ¬ tree.LeadsTo other place) :
    (tree.put place (.file content)).readBytes other = .ok found ↔
      tree.readBytes other = .ok found := by
  have vacant := (openForWriting_eq_ok_iff.mp opened).2
  have apart {reached : List String} (located : tree.locate other = .ok (reached, false)) :
      reached ≠ place := by
    rintro rfl
    exact elsewhere ⟨false, located⟩
  rw [readBytes_eq_ok_iff, readBytes_eq_ok_iff]
  constructor
  · rintro ⟨reached, located, holds⟩
    rw [locate_put_eq_ok_iff vacant] at located
    rw [at?_put_of_ne _ _ (apart located)] at holds
    exact ⟨reached, located, holds⟩
  · rintro ⟨reached, located, holds⟩
    rw [← at?_put_of_ne tree (.file content) (apart located)] at holds
    exact ⟨reached, (locate_put_eq_ok_iff vacant).mpr located, holds⟩

/-- Writing what a file holds changes nothing. -/
theorem at?_put_of_readBytes (read : tree.readBytes path = .ok content)
    (leads : tree.LeadsTo path place) (any : List String) :
    (tree.put place (.file content)).at? any = tree.at? any := by
  obtain ⟨reached, located, holds⟩ := readBytes_eq_ok_iff.mp read
  obtain rfl : place = reached := leads.unique ⟨false, located⟩
  by_cases here : any = place
  · have vacant : tree.at? place ≠ some .directory := by simp [holds]
    rw [here, at?_put_self _ _ (ne_nil_of_vacant vacant), holds]
  · exact at?_put_of_ne tree _ here

/-- A text that was read is the file in UTF-8. -/
theorem readBytes_of_readText {text : String} (read : tree.readText path = .ok text) :
    tree.readBytes path = .ok text.toUTF8 := by
  unfold readText at read
  cases bytes : tree.readBytes path with
  | error fault =>
    rw [bytes] at read
    contradiction
  | ok content =>
    rw [bytes] at read
    rw [toUTF8_of_decode read]

end Splice.FileTree
