import Chip8.Proofs.Display.Contract

/-!
# What a drawing leaves

A drawing sets one pixel after the other, and a dot that is lit turns its pixel over.  So
on a display that shows what it was told (`Display.Faithful`) only the number of lit dots
on a pixel counts, and of that only whether it is odd (`lit_blit`).  The same holds halfway
through: a dot meets what the dots before it have left of the pixel, and not what was
there at the start (`blit_hit_iff`).

The dots of a sprite are named by the row and the column of their bits (`places`), from
which `dots_eq` reads them off.
-/

namespace Chip8.Display

variable {δ : Type} [Display δ] {d : δ} {rule : CollisionRule} {hit hit' : Bool} {pixels : Nat}
  {dots : List Dot}

/-! ## Displays that show what they were told -/

/-- Whether the pixel at an offset is lit.  Where there is no pixel, none is. -/
def lit (d : δ) (o : Nat) : Bool :=
  match get d o with
  | .ok value => value != 0
  | .error _ => false

/-- A display that honours a number of pixels, and shows at each of them what was set last. -/
structure Faithful (d : δ) (pixels : Nat) : Prop where
  honours : Honours d pixels
  shows : ∀ writes : List (Nat × UInt8), (∀ write ∈ writes, write.1 < pixels) → ∀ o < pixels,
    ∀ value k, lit (set (setAll d writes) o value).state k =
      if k = o then value != 0 else lit (setAll d writes) k

theorem Faithful.after_set {o : Nat} (faithful : Faithful d pixels) (ho : o < pixels)
    (value : UInt8) : Faithful (set d o value).state pixels where
  honours := faithful.honours.after_set ho value
  shows writes below :=
    faithful.shows ((o, value) :: writes) (List.forall_mem_cons.mpr ⟨ho, below⟩)

theorem Faithful.lit_set {o : Nat} (faithful : Faithful d pixels) (ho : o < pixels)
    (value : UInt8) (k : Nat) :
    lit (set d o value).state k = if k = o then value != 0 else lit d k :=
  faithful.shows [] (List.forall_mem_nil _) o ho value k

/-- A display that can be read shows what it reads. -/
theorem lit_of_get {o : Nat} {value : UInt8} (got : get d o = .ok value) :
    lit d o = (value != 0) := by
  rw [lit, got]

theorem pixelValue_ne_zero (b : Bool) : (pixelValue b != 0) = b := by
  cases b <;> rfl

/-! ## Turning pixels over -/

/-- How many of some dots turn a pixel over. -/
def turns (dots : List Dot) (o : Nat) : Nat := dots.countP fun dot => dot.lit && dot.offset == o

theorem turns_cons_odd (dot : Dot) (dots : List Dot) (o : Nat) :
    (turns (dot :: dots) o % 2 == 1) =
      ((dot.lit && dot.offset == o) ^^ (turns dots o % 2 == 1)) := by
  have parity (n : Nat) : ((n + 1) % 2 == 1) = !(n % 2 == 1) := by
    rw [Bool.eq_iff_iff]
    simp only [beq_iff_eq, Bool.not_eq_true', beq_eq_false_iff_ne]
    omega
  unfold turns
  rw [List.countP_cons]
  cases dot.lit && dot.offset == o with
  | false => simp
  | true => simp [parity]

/-- The display after a dot. -/
def drawDot (d : δ) (dot : Dot) : δ :=
  (set d dot.offset (pixelValue (dot.lit ^^ lit d dot.offset))).state

theorem Faithful.lit_drawDot {dot : Dot} (faithful : Faithful d pixels)
    (ho : dot.offset < pixels) (o : Nat) :
    lit (drawDot d dot) o = (lit d o ^^ (dot.lit && dot.offset == o)) := by
  rw [drawDot, faithful.lit_set ho, pixelValue_ne_zero]
  by_cases same : o = dot.offset
  · subst same
    rw [if_pos rfl, beq_self_eq_true, Bool.and_true, Bool.xor_comm]
  · have other : (dot.offset == o) = false := beq_eq_false_iff_ne.mpr (Ne.symm same)
    rw [if_neg same, other, Bool.and_false, Bool.xor_false]

/-- What some dots leave of a pixel is the same, seen from before the dot ahead of them and from
after it. -/
theorem Faithful.lit_drawDot_turns {dot : Dot} (faithful : Faithful d pixels)
    (ho : dot.offset < pixels) (dots : List Dot) (o : Nat) :
    (lit (drawDot d dot) o ^^ (turns dots o % 2 == 1)) =
      (lit d o ^^ (turns (dot :: dots) o % 2 == 1)) := by
  rw [faithful.lit_drawDot ho, turns_cons_odd, Bool.xor_assoc]

/-- When a drawing gets through, its first dot was drawn, and then the rest. -/
theorem blit_cons_of_ok {dot : Dot} (done : (blit rule d hit (dot :: dots)).result = .ok hit') :
    blit rule d hit (dot :: dots) =
      blit rule (drawDot d dot) (hit || rule.fires dot.lit (lit d dot.offset)) dots := by
  rw [blit] at done ⊢
  cases got : get d dot.offset with
  | error f =>
      rw [got] at done
      cases done
  | ok pixel =>
      simp only [got, drawDot, ← lit_of_get got] at done ⊢
      cases put : (set d dot.offset (pixelValue (dot.lit ^^ lit d dot.offset))).result with
      | error f =>
          rw [put] at done
          cases done
      | ok u => rfl

/-- A drawing that gets through sets the pixels of its dots, one after the other. -/
theorem exists_writes_of_blit (done : (blit rule d hit dots).result = .ok hit') :
    ∃ writes : List (Nat × UInt8), writes.map Prod.fst = dots.map Dot.offset ∧
      (blit rule d hit dots).state = setAll d writes := by
  induction dots generalizing d hit with
  | nil => exact ⟨[], rfl, rfl⟩
  | cons dot rest ih =>
      have first := blit_cons_of_ok done
      rw [first] at done ⊢
      obtain ⟨writes, offsets, left⟩ := ih done
      refine ⟨(dot.offset, pixelValue (dot.lit ^^ lit d dot.offset)) :: writes, ?_, left⟩
      rw [List.map_cons, List.map_cons, offsets]

section
variable (faithful : Faithful d pixels) (inside : ∀ dot ∈ dots, dot.offset < pixels)

include faithful inside in
/-- What a drawing leaves of a pixel is told by what it was and by how often it is turned over. -/
theorem lit_blit (done : (blit rule d hit dots).result = .ok hit') (o : Nat) :
    lit (blit rule d hit dots).state o = (lit d o ^^ (turns dots o % 2 == 1)) := by
  induction dots generalizing d hit with
  | nil => exact (Bool.xor_false _).symm
  | cons dot rest ih =>
      have ho := inside dot (.head _)
      have first := blit_cons_of_ok done
      rw [first] at done ⊢
      have later := ih (faithful.after_set ho _) (fun next tail => inside next (.tail _ tail)) done
      rw [← faithful.lit_drawDot_turns ho]
      exact later

include faithful inside in
/-- A drawing collides when a dot fires the rule against what the dots before it left. -/
theorem blit_hit_iff (done : (blit rule d hit dots).result = .ok hit') :
    hit' = true ↔ hit = true ∨ ∃ before dot after, dots = before ++ dot :: after ∧
      rule.fires dot.lit (lit d dot.offset ^^ (turns before dot.offset % 2 == 1)) = true := by
  induction dots generalizing d hit with
  | nil =>
      obtain rfl : hit = hit' := Except.ok.inj done
      simp
  | cons dot rest ih =>
      have ho := inside dot (.head _)
      rw [blit_cons_of_ok done] at done
      have later := ih (faithful.after_set ho _) (fun next tail => inside next (.tail _ tail)) done
      change _ ↔ _ ∨ ∃ before other after, _ ∧
        rule.fires _ (lit (drawDot d dot) _ ^^ _) = true at later
      simp only [faithful.lit_drawDot_turns ho] at later
      rw [later, Bool.or_eq_true, or_assoc]
      apply or_congr_right
      constructor
      · rintro (now | ⟨before, other, after, rfl, fires⟩)
        · exact ⟨[], dot, rest, rfl, by simpa [turns] using now⟩
        · exact ⟨dot :: before, other, after, rfl, fires⟩
      · rintro ⟨before, other, after, split, fires⟩
        cases before with
        | nil =>
            cases split
            exact .inl (by simpa [turns] using fires)
        | cons head before =>
            cases split
            exact .inr ⟨before, other, after, rfl, fires⟩

end

/-! ## The dots of a sprite -/

/-- The rows and columns of the bits of a sprite, in the order in which they are drawn. -/
def places (rows : Nat) : List (Nat × Nat) :=
  (List.range rows).flatMap fun row => (List.range 8).map fun col => (row, col)

theorem mem_places_iff {rows row col : Nat} :
    (row, col) ∈ places rows ↔ row < rows ∧ col < 8 := by
  simp [places]

theorem lt_of_places_eq {rows row col : Nat} {before after : List (Nat × Nat)}
    (split : places rows = before ++ (row, col) :: after) : row < rows ∧ col < 8 := by
  rw [← mem_places_iff, split]
  exact List.mem_append_right _ (.head _)

theorem nodup_places (rows : Nat) : (places rows).Nodup := by
  unfold places
  refine List.pairwise_flatMap.mpr ⟨?_, ?_⟩
  · intro row _
    exact List.Pairwise.map _ (fun _ _ apart same => apart (Prod.mk.inj same).2) List.nodup_range
  · refine List.Pairwise.imp (fun apart => ?_) List.nodup_range
    intro first inFirst second inSecond same
    obtain ⟨col, -, rfl⟩ := List.mem_map.mp inFirst
    obtain ⟨other, -, rfl⟩ := List.mem_map.mp inSecond
    exact apart (Prod.mk.inj same).1

/-- Every dot is that of a bit: it goes where the bit lands, and is lit when the bit is one. -/
theorem dots_eq (width height x y : Nat) (bytes : List UInt8) :
    Display.dots width height x y bytes =
      (places bytes.length).map fun (row, col) =>
        ⟨width * ((y + row) % height) + (x + col) % width,
          (bytes[row]?.getD 0).toNat.testBit (7 - col)⟩ := by
  have numbered : bytes.zipIdx =
      (List.range bytes.length).map fun row => (bytes[row]?.getD 0, row) := by
    apply List.ext_getElem
    · simp
    · intro row inBytes _
      have inside : row < bytes.length := by simpa using inBytes
      simp [inside]
  rw [Display.dots, numbered, places, List.flatMap_map, List.map_flatMap]
  simp only [List.map_map]
  rfl

end Chip8.Display

namespace Chip8

/-- What sets below a number of pixels keep holds after all of them. -/
theorem Display.setAll_keeps {δ : Type} [Display δ] {pixels : Nat} {Good : δ → Prop}
    (kept : ∀ d o value, Good d → o < pixels → Good (set d o value).state) {d : δ} (good : Good d)
    {writes : List (Nat × UInt8)} (below : ∀ write ∈ writes, write.1 < pixels) :
    Good (setAll d writes) := by
  induction writes generalizing d with
  | nil => exact good
  | cons write writes ih =>
      exact ih (kept d write.1 write.2 good (below write (.head _)))
        fun other later => below other (.tail _ later)

namespace FrameBuffer

/-- Two planes of one size. -/
def SameSize (f g : FrameBuffer) : Prop := g.width = f.width ∧ g.height = f.height

theorem SameSize.set {f g : FrameBuffer} (same : SameSize f g) (o : Nat) (value : UInt8) :
    SameSize f (Display.set g o value).state :=
  ⟨(size_set g o value).1.trans same.1, (size_set g o value).2.trans same.2⟩

theorem sameSize_blit (f : FrameBuffer) (rule : CollisionRule) (hit : Bool)
    (dots : List Display.Dot) : SameSize f (Display.blit rule f hit dots).state :=
  Display.blit_keeps (fun _ o value same => same.set o value) ⟨rfl, rfl⟩

theorem lit_set (f : FrameBuffer) {o : Nat} (ho : o < f.width * f.height) (value : UInt8)
    (k : Nat) :
    Display.lit (Display.set f o value).state k =
      if k = o then value != 0 else Display.lit f k := by
  have put := set_of_lt f value ho
  rw [display_set, put]
  change (match (f.put o value ho).get k with | .ok v => v != 0 | .error _ => false) = _
  rw [get_set put]
  by_cases same : k = o
  · rw [if_pos same, if_pos same]
    exact Display.pixelValue_ne_zero _
  · rw [if_neg same, if_neg same]
    rfl

/-- A frame buffer shows all of its pixels. -/
theorem faithful (f : FrameBuffer) : Display.Faithful f (f.width * f.height) where
  honours := f.honours
  shows writes below o ho value k := by
    have size : SameSize f (Display.setAll f writes) :=
      Display.setAll_keeps (fun _ o value same _ => same.set o value) ⟨rfl, rfl⟩ below
    exact lit_set _ (by rwa [size.1, size.2]) value k

/-- Inside the plane a pixel is what is shown at its offset. -/
theorem pixel_eq_lit (f : FrameBuffer) {x y : Nat} (hx : x < f.width) (hy : y < f.height) :
    f.pixel x y = Display.lit f (f.width * y + x) := by
  have inside := Display.offset_lt hx hy
  rw [Display.lit_of_get (get_of_lt f inside), Display.pixelValue_ne_zero, pixel]
  simp [hx, hy, inside]

theorem pixel_of_outside (f : FrameBuffer) {x y : Nat} (outside : ¬ (x < f.width ∧ y < f.height)) :
    f.pixel x y = false := by
  rw [pixel, decide_eq_false outside, Bool.false_and]

theorem pixel_blank (width height x y : Nat) : (blank width height).pixel x y = false := by
  have off : (Vector.replicate (width * height) false)[width * y + x]?.getD false = false := by
    rw [Vector.getElem?_replicate]
    split <;> rfl
  exact (congrArg (_ && ·) off).trans (Bool.and_false _)

end FrameBuffer

end Chip8
