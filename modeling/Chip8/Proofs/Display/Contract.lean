import Chip8.Display.FrameBuffer
import Chip8.Display.Panel

/-!
# The contract of displays

What the machine may expect of a plane that is not its own.  A display has faults
of range when it fails, if it does, because of the address alone
(`Display.RangeFaults`).  A display honours a number of pixels when every get and
set below that number succeeds, and goes on to succeed after any sets
(`Display.Honours`).  A frame buffer honours all of its pixels, a panel those that
it stores.

Drawing on a display that honours its pixels never fails
(`blit_ok_of_honours`), since every dot lies on the plane (`offset_lt_of_mem_dots`).

A display works when it has faults of range at most and can always be cleared, whatever
was set or cleared before (`Display.Working`).
-/

namespace Chip8

namespace Display

variable {δ : Type} [Display δ]

/-! ## What a display promises -/

/-- A get or a set that fails does so for the address. -/
structure RangeFaults (δ : Type) [Display δ] : Prop where
  get : ∀ {d : δ} {o : Nat} {f : Fault}, Display.get d o = .error f → ∃ a, f = .addressOutOfRange a
  set : ∀ {d : δ} {o : Nat} {value : UInt8} {f : Fault},
    (Display.set d o value).result = .error f → ∃ a, f = .addressOutOfRange a

/-- The plane after some sets, whatever came of each. -/
def setAll (d : δ) (writes : List (Nat × UInt8)) : δ :=
  writes.foldl (fun d write => (set d write.1 write.2).state) d

@[simp] theorem setAll_nil (d : δ) : setAll d [] = d := rfl

@[simp] theorem setAll_cons (d : δ) (write : Nat × UInt8) (writes : List (Nat × UInt8)) :
    setAll d (write :: writes) = setAll (set d write.1 write.2).state writes := rfl

/-- Every get and set below a number of pixels succeeds, also after any sets below it. -/
def Honours (d : δ) (pixels : Nat) : Prop :=
  ∀ writes : List (Nat × UInt8), (∀ write ∈ writes, write.1 < pixels) → ∀ o < pixels,
    (∃ value, get (setAll d writes) o = .ok value) ∧
      ∀ value, (set (setAll d writes) o value).result = .ok ()

theorem Honours.get {d : δ} {pixels o : Nat} (honours : Honours d pixels) (ho : o < pixels) :
    ∃ value, Display.get d o = .ok value :=
  (honours [] (by simp) o ho).1

theorem Honours.set_ok {d : δ} {pixels o : Nat} (honours : Honours d pixels) (ho : o < pixels)
    (value : UInt8) : (Display.set d o value).result = .ok () :=
  (honours [] (by simp) o ho).2 value

/-- A display goes on to honour its pixels after a set of one of them. -/
theorem Honours.after_set {d : δ} {pixels o : Nat} (honours : Honours d pixels) (ho : o < pixels)
    (value : UInt8) : Honours (Display.set d o value).state pixels := by
  intro writes below k hk
  exact honours ((o, value) :: writes) (List.forall_mem_cons.mpr ⟨ho, below⟩) k hk

/-- A condition that sets below a number of pixels keep, and under which they succeed. -/
theorem honours_of_invariant {pixels : Nat} (Good : δ → Prop)
    (kept : ∀ d o value, Good d → o < pixels → Good (set d o value).state)
    (gets : ∀ d o, Good d → o < pixels → ∃ value, get d o = .ok value)
    (sets : ∀ d o value, Good d → o < pixels → (set d o value).result = .ok ())
    {d : δ} (good : Good d) : Honours d pixels := by
  intro writes below
  induction writes generalizing d with
  | nil => exact fun o ho => ⟨gets d o good ho, fun value => sets d o value good ho⟩
  | cons write writes ih =>
      have first := kept d write.1 write.2 good (below write (.head _))
      exact ih first fun write' membership => below write' (.tail _ membership)

/-! ## Drawing -/

/-- The offset of a position on the plane is one of the plane. -/
theorem offset_lt {width height x y : Nat} (hx : x < width) (hy : y < height) :
    width * y + x < width * height :=
  calc width * y + x
      < width * y + width := Nat.add_lt_add_left hx _
    _ = width * (y + 1) := by rw [Nat.mul_add, Nat.mul_one]
    _ ≤ width * height := Nat.mul_le_mul_left width hy

/-- Every dot of a sprite lies on the plane. -/
theorem offset_lt_of_mem_dots {width height x y : Nat} {rows : List UInt8} {dot : Dot}
    (hw : width ≠ 0) (hh : height ≠ 0) (membership : dot ∈ dots width height x y rows) :
    dot.offset < width * height := by
  obtain ⟨⟨bits, row⟩, -, inRow⟩ := List.mem_flatMap.mp membership
  obtain ⟨col, -, rfl⟩ := List.mem_map.mp inRow
  exact offset_lt (Nat.mod_lt _ (Nat.pos_of_ne_zero hw)) (Nat.mod_lt _ (Nat.pos_of_ne_zero hh))

theorem blit_fault (faults : RangeFaults δ) {rule : CollisionRule} {d : δ} {hit : Bool}
    {dots : List Dot} {f : Fault} (failed : (blit rule d hit dots).result = .error f) :
    ∃ a, f = .addressOutOfRange a := by
  induction dots generalizing d hit with
  | nil => cases failed
  | cons dot rest ih =>
      rw [blit] at failed
      cases got : get d dot.offset with
      | error g =>
          rw [got] at failed
          cases failed
          exact faults.get got
      | ok pixel =>
          simp only [got] at failed
          split at failed
          next g failedSet =>
            cases failed
            exact faults.set failedSet
          next => exact ih failed

theorem blit_ok_of_honours {rule : CollisionRule} {d : δ} {hit : Bool} {pixels : Nat}
    {dots : List Dot} (honours : Honours d pixels) (inside : ∀ dot ∈ dots, dot.offset < pixels) :
    ∃ hit', (blit rule d hit dots).result = .ok hit' := by
  induction dots generalizing d hit with
  | nil => exact ⟨hit, rfl⟩
  | cons dot rest ih =>
      have ho := inside dot (.head _)
      obtain ⟨pixel, got⟩ := honours.get ho
      have put := honours.set_ok ho (pixelValue (dot.lit ^^ (pixel != 0)))
      simp only [blit, got, put]
      exact ih (honours.after_set ho _) fun other membership => inside other (.tail _ membership)

/-- Drawing keeps what every set keeps, also when it fails. -/
theorem blit_keeps {Good : δ → Prop}
    (kept : ∀ d o value, Good d → Good (set d o value).state) {rule : CollisionRule} {d : δ}
    {hit : Bool} {dots : List Dot} (good : Good d) : Good (blit rule d hit dots).state := by
  induction dots generalizing d hit with
  | nil => exact good
  | cons dot rest ih =>
      rw [blit]
      cases get d dot.offset with
      | error f => exact good
      | ok pixel =>
          dsimp only
          split
          next => exact kept _ _ _ good
          next => exact ih (kept _ _ _ good)

/-! ## Clearing -/

/-- What a display can come to by sets and clears, whatever came of each. -/
inductive Becomes (d : δ) : δ → Prop where
  | self : Becomes d d
  | set {e : δ} (becomes : Becomes d e) (o : Nat) (value : UInt8) :
      Becomes d (Display.set e o value).state
  | clear {e : δ} (becomes : Becomes d e) : Becomes d (Display.clear e).state

theorem Becomes.trans {d e f : δ} (first : Becomes d e) (second : Becomes e f) : Becomes d f := by
  induction second with
  | self => exact first
  | set _ o value ih => exact ih.set o value
  | clear _ ih => exact ih.clear

/-- A display that can always be cleared, and fails for the address alone. -/
structure Working (d : δ) : Prop where
  faults : RangeFaults δ
  clears : ∀ {e}, Becomes d e → (Display.clear e).result = .ok ()

theorem Working.of_becomes {d e : δ} (working : Working d) (becomes : Becomes d e) : Working e where
  faults := working.faults
  clears later := working.clears (becomes.trans later)

end Display

/-! ## Frame buffers -/

namespace FrameBuffer

theorem rangeFaults : Display.RangeFaults FrameBuffer where
  get {f o e} failed := by
    by_cases ho : o < f.width * f.height
    · rw [show Display.get f o = f.get o from rfl, get_of_lt f ho] at failed
      cases failed
    · rw [show Display.get f o = f.get o from rfl, get_of_le f (Nat.not_lt.mp ho)] at failed
      cases failed
      exact ⟨o, rfl⟩
  set {f o value e} failed := by
    by_cases ho : o < f.width * f.height
    · rw [display_set, set_of_lt f value ho] at failed
      cases failed
    · rw [display_set, set_of_le f value (Nat.not_lt.mp ho)] at failed
      cases failed
      exact ⟨o, rfl⟩

/-- A set never changes the size of the plane. -/
theorem size_set (f : FrameBuffer) (o : Nat) (value : UInt8) :
    (Display.set f o value).state.width = f.width ∧
      (Display.set f o value).state.height = f.height := by
  by_cases ho : o < f.width * f.height
  · rw [display_set, set_of_lt f value ho]
    exact ⟨rfl, rfl⟩
  · rw [display_set, set_of_le f value (Nat.not_lt.mp ho)]
    exact ⟨rfl, rfl⟩

theorem working (f : FrameBuffer) : Display.Working f where
  faults := rangeFaults
  clears _ := rfl

theorem honours (f : FrameBuffer) : Display.Honours f (f.width * f.height) := by
  refine Display.honours_of_invariant (fun g => g.width = f.width ∧ g.height = f.height)
    ?_ ?_ ?_ ⟨rfl, rfl⟩
  · intro g o value ⟨hw, hh⟩ _
    exact ⟨(size_set g o value).1.trans hw, (size_set g o value).2.trans hh⟩
  · intro g o ⟨hw, hh⟩ ho
    exact ⟨_, get_of_lt g (by rwa [hw, hh])⟩
  · intro g o value ⟨hw, hh⟩ ho
    rw [display_set, set_of_lt g value (by rwa [hw, hh])]
    rfl

end FrameBuffer

/-! ## Panels -/

namespace Panel

theorem rangeFaults : Display.RangeFaults Panel where
  get {p o f} failed := by
    simp only [Display.get, get] at failed
    split at failed
    · cases failed
    · cases failed
      exact ⟨o, rfl⟩
  set {p o value f} failed := by
    rw [display_set, set] at failed
    split at failed
    · cases failed
    · cases failed
      exact ⟨o, rfl⟩

/-- A panel honours the pixels that it stores. -/
theorem honours (p : Panel) : Display.Honours p p.cells.size := by
  refine Display.honours_of_invariant (fun q => q.cells.size = p.cells.size) ?_ ?_ ?_ rfl
  · intro q o value hq ho
    rw [display_set, set, dif_pos (by rwa [hq])]
    simp [put, hq]
  · intro q o hq ho
    have inside : o < q.cells.size := by rwa [hq]
    exact ⟨q.cells[o], dif_pos inside⟩
  · intro q o value hq ho
    rw [display_set, set, dif_pos (by rwa [hq])]
    rfl

end Panel

end Chip8
