import Chip8.Json

/-!
# Records

A record is read from the members of an object by the names of its fields.  A name
may be given once or left out (`Gives`).  What is read does not depend on the order of
the members, nor on those that have none of the names (`fields?_of_rearranged`), but a
name that is given twice spoils the record (`fields?_of_repeated`).
-/

namespace Chip8.Json

/-- The members of an object. -/
abbrev Members := List (Option String × Json)

/-- Every key is a text. -/
def Readable (members : Members) : Prop := ∀ m ∈ members, m.1.isSome = true

/-- Whether a member has one of some names. -/
def isKnown (names : List String) (m : Option String × Json) : Bool :=
  names.any fun name => m.1 = some name

/-- What the members give for a name, by a relation between values and what they stand for. -/
inductive Gives {α : Type} (stands : Json → α → Prop) (members : Members) (name : String) :
    Option α → Prop where
  /-- No member has the name. -/
  | absent (absent : ∀ m ∈ members, m.1 ≠ some name) : Gives stands members name none
  /-- One member has it. -/
  | once {before after : Members} {v : Json} {a : α}
      (split : members = before ++ (some name, v) :: after)
      (unique : ∀ m ∈ before ++ after, m.1 ≠ some name) (value : stands v a) :
      Gives stands members name (some a)

/-- Two members or more have the name. -/
def Repeats (members : Members) (name : String) : Prop :=
  2 ≤ members.countP fun m => m.1 = some name

/-- The same members, but for their order and for those that have none of the names. -/
structure Rearranged (names : List String) (members others : Members) : Prop where
  left : Readable members
  right : Readable others
  known : (members.filter (isKnown names)).Perm (others.filter (isKnown names))

variable {α : Type} {stands : Json → α → Prop} {members others before after : Members}
  {name : String} {names : List String} {v : Json}

/-! ## One name -/

theorem filter_of_absent (absent : ∀ m ∈ members, m.1 ≠ some name) :
    members.filter (·.1 = some name) = [] := by
  rw [List.filter_eq_nil_iff]
  intro m among
  simp [absent m among]

theorem filter_of_once (unique : ∀ m ∈ before ++ after, m.1 ≠ some name) :
    (before ++ (some name, v) :: after).filter (·.1 = some name) = [(some name, v)] := by
  rw [List.forall_mem_append] at unique
  rw [List.filter_append, filter_of_absent unique.1, List.nil_append,
    List.filter_cons_of_pos (by simp), filter_of_absent unique.2]

theorem member?_of_absent (absent : ∀ m ∈ members, m.1 ≠ some name) :
    member? members name = some none := by
  rw [member?, filter_of_absent absent]

theorem member?_of_once (unique : ∀ m ∈ before ++ after, m.1 ≠ some name) :
    member? (before ++ (some name, v) :: after) name = some (some v) := by
  rw [member?, filter_of_once unique]

/-- A member of one name is nothing to another. -/
theorem member?_of_other {other : String} (different : name ≠ other) :
    member? (before ++ (some other, v) :: after) name = member? (before ++ after) name := by
  rw [member?, member?, List.filter_append, List.filter_append,
    List.filter_cons_of_neg (by simpa using different.symm)]

theorem member?_of_repeats (repeats : Repeats members name) : member? members name = none := by
  rw [Repeats, List.countP_eq_length_filter] at repeats
  rw [member?]
  split
  next none => simp [none] at repeats
  next one => simp [one] at repeats
  next => rfl

/-- What is given stands for whatever is made of it. -/
theorem Gives.map {β : Type} {given : Option α} (gives : Gives stands members name given)
    (f : α → β) : Gives (fun v b => ∃ a, stands v a ∧ f a = b) members name (given.map f) := by
  cases gives with
  | absent absent => exact .absent absent
  | once split unique value => exact .once split unique ⟨_, value, rfl⟩

/-- A field that reads what stands for its values has the value that is given, or its default. -/
theorem exists_of_gives {given : Option α} {read : Json → Option α}
    (reads : ∀ v a, stands v a → read v = some a) (gives : Gives stands members name given)
    (default : α) :
    ∃ found, member? members name = some found ∧
      orDefault default read found = some (given.getD default) := by
  cases gives with
  | absent absent => exact ⟨none, member?_of_absent absent, rfl⟩
  | once split unique value =>
      subst split
      exact ⟨some _, member?_of_once unique, reads _ _ value⟩

/-- A member that is not the only one of its name repeats it. -/
theorem repeats_of_not_unique (shared : ¬ ∀ m ∈ before ++ after, m.1 ≠ some name) (v : Json) :
    Repeats (before ++ (some name, v) :: after) name := by
  have others : 0 < (before ++ after).countP fun m => m.1 = some name := by
    rw [List.countP_pos_iff]
    simpa using shared
  rw [List.countP_append] at others
  rw [Repeats, List.countP_append, List.countP_cons_of_pos (by simp)]
  omega

/-! ## All names -/

theorem mapM_congr {β : Type} {f g : String → Option β} (same : ∀ name ∈ names, f name = g name) :
    names.mapM f = names.mapM g := by
  induction names with
  | nil => rfl
  | cons name names ih =>
      obtain ⟨first, rest⟩ := List.forall_mem_cons.mp same
      rw [List.mapM_cons, List.mapM_cons, first, ih rest]

theorem mapM_of_none {β : Type} {f : String → Option β} (among : name ∈ names)
    (fails : f name = none) : names.mapM f = none := by
  induction names with
  | nil => cases among
  | cons first names ih =>
      rw [List.mapM_cons]
      rcases List.mem_cons.mp among with rfl | later
      · rw [fails]
        rfl
      · rw [ih later]
        cases f first <;> rfl

theorem fields?_of_readable (readable : Readable members) :
    (object members).fields? names = names.mapM (member? members) := by
  rw [fields?, if_pos (List.all_eq_true.mpr readable)]

theorem filter_isKnown (members : Members) (among : name ∈ names) :
    (members.filter (isKnown names)).filter (·.1 = some name) =
      members.filter (·.1 = some name) := by
  rw [List.filter_filter]
  apply List.filter_congr
  intro m _
  by_cases same : m.1 = some name
  · simp [isKnown, same, among]
  · simp [same]

/-- The value of a name depends on the members that have it. -/
theorem member?_of_perm
    (perm : (members.filter (·.1 = some name)).Perm (others.filter (·.1 = some name))) :
    member? members name = member? others name := by
  rw [member?, member?]
  generalize members.filter (·.1 = some name) = left at perm
  generalize others.filter (·.1 = some name) = right at perm
  match left with
  | [] => rw [List.nil_perm.mp perm]
  | [m] => rw [List.singleton_perm.mp perm]
  | a :: b :: rest =>
      have length := perm.length_eq
      match right with
      | [] => simp at length
      | [m] => simp at length
      | c :: d :: rest' => rfl

theorem member?_of_rearranged (rearranged : Rearranged names members others)
    (among : name ∈ names) : member? members name = member? others name := by
  apply member?_of_perm
  rw [← filter_isKnown members among, ← filter_isKnown others among]
  exact rearranged.known.filter _

/-- A record does not depend on the order of its members, nor on unknown ones. -/
theorem fields?_of_rearranged (rearranged : Rearranged names members others) :
    (object members).fields? names = (object others).fields? names := by
  rw [fields?_of_readable rearranged.left, fields?_of_readable rearranged.right]
  exact mapM_congr fun name among => member?_of_rearranged rearranged among

theorem fields?_of_unreadable (unreadable : ¬ Readable members) :
    (object members).fields? names = none := by
  rw [fields?, if_neg]
  rw [List.all_eq_true]
  exact unreadable

/-- A name that is given twice spoils the record. -/
theorem fields?_of_repeated (among : name ∈ names) (repeats : Repeats members name) :
    (object members).fields? names = none := by
  rw [fields?]
  split
  · exact mapM_of_none among (member?_of_repeats repeats)
  · rfl

end Chip8.Json
