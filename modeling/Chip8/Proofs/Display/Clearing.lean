import Chip8.Proofs.Display.Drawing

/-!
# Clearing pixel by pixel

A display without a clear of its own sets every offset of its plane to zero, in order, and
stops where a set fails.  A frame buffer has a clear of its own, which turns all pixels off
at once.  The two come to the same plane.

What the loop comes to depends on what the display stores (`Display.Stores`): the first
pixels of the plane, as many as it likes, and no others.  In the course of the loop the
pixels below the offset are off and the others are as they were (`Display.ClearedBelow`).
A set of the next pixel keeps this (`ClearedBelow.set`).  So the loop gets through where
all offsets are stored (`clearFrom_of_fits`), and else it fails at the first that is not
(`clearFrom_of_short`).

The loop runs over as many offsets as the plane has pixels, and counting them is a
product of words (`Display.area`).  A plane with more pixels than a word can count is not
cleared at all.  The clear breaks off before its first set (`clearEach_of_uncounted`).  No
frame buffer is that large, since none could be made.

`Display.cleared_as_stored` puts these together.
-/

namespace Chip8.Display

variable {δ : Type} [Display δ] {d e : δ} {pixels o k n : Nat}

/-! ## What a display stores -/

/-- A display that stores a number of pixels.  Nothing is asked of what is read beyond them. -/
structure Stores (d : δ) (pixels : Nat) : Prop where
  honours : Honours d pixels
  /-- A pixel shows what was set last. -/
  shows : ∀ writes : List (Nat × UInt8), (∀ write ∈ writes, write.1 < pixels) → ∀ o < pixels,
    ∀ value, ∀ k < pixels, lit (set (setAll d writes) o value).state k =
      if k = o then value != 0 else lit (setAll d writes) k
  /-- A set beyond the pixels fails and leaves them as they were. -/
  refuses : ∀ writes : List (Nat × UInt8), (∀ write ∈ writes, write.1 < pixels) →
    ∀ o, pixels ≤ o → ∀ value,
      (set (setAll d writes) o value).result = .error (.addressOutOfRange o) ∧
        ∀ k < pixels, get (set (setAll d writes) o value).state k = get (setAll d writes) k

/-- A condition that sets below a number of pixels keep, and under which a set does what it
should. -/
theorem stores_of_invariant (Good : δ → Prop)
    (kept : ∀ d o value, Good d → o < pixels → Good (set d o value).state)
    (shows : ∀ d, Good d → ∀ o < pixels, ∀ value, ∀ k < pixels,
      lit (set d o value).state k = if k = o then value != 0 else lit d k)
    (refuses : ∀ d, Good d → ∀ o, pixels ≤ o → ∀ value,
      (set d o value).result = .error (.addressOutOfRange o) ∧
        ∀ k < pixels, get (set d o value).state k = get d k)
    (honours : Honours d pixels) (good : Good d) : Stores d pixels where
  honours := honours
  shows _ below := shows _ (setAll_keeps kept good below)
  refuses _ below := refuses _ (setAll_keeps kept good below)

theorem Stores.after_set (stores : Stores d pixels) (ho : o < pixels) (value : UInt8) :
    Stores (set d o value).state pixels where
  honours := stores.honours.after_set ho value
  shows writes below :=
    stores.shows ((o, value) :: writes) (List.forall_mem_cons.mpr ⟨ho, below⟩)
  refuses writes below :=
    stores.refuses ((o, value) :: writes) (List.forall_mem_cons.mpr ⟨ho, below⟩)

theorem Stores.lit_set (stores : Stores d pixels) (ho : o < pixels) (value : UInt8)
    (hk : k < pixels) : lit (set d o value).state k = if k = o then value != 0 else lit d k :=
  stores.shows [] (List.forall_mem_nil _) o ho value k hk

theorem Stores.refused (stores : Stores d pixels) (beyond : pixels ≤ o) (value : UInt8) :
    (set d o value).result = .error (.addressOutOfRange o) ∧
      ∀ k < pixels, get (set d o value).state k = get d k :=
  stores.refuses [] (List.forall_mem_nil _) o beyond value

/-- A stored pixel that is off is read as zero. -/
theorem Stores.get_of_off (stores : Stores d pixels) (hk : k < pixels) (off : lit d k = false) :
    get d k = .ok 0 := by
  obtain ⟨value, got⟩ := stores.honours.get hk
  rw [lit_of_get got, bne_eq_false_iff_eq] at off
  rw [got, off]

/-! ## The loop -/

theorem clearFrom_succ_of_ok (done : (set d o 0).result = .ok ()) :
    clearFrom set (n + 1) o d = clearFrom set n (o + 1) (set d o 0).state := by
  rw [clearFrom, done]

theorem clearFrom_succ_of_error {f : Fault} (failed : (set d o 0).result = .error f) :
    clearFrom set (n + 1) o d = ⟨.error f, (set d o 0).state⟩ := by
  rw [clearFrom, failed]

/-- The loop keeps what every set keeps, also when it fails. -/
theorem clearFrom_keeps (Good : δ → Prop) (kept : ∀ d o, Good d → Good (set d o 0).state)
    (good : Good d) : Good (clearFrom set n o d).state := by
  induction n generalizing d o with
  | zero => exact good
  | succ n ih =>
      cases put : (set d o 0).result with
      | error f =>
          rw [clearFrom_succ_of_error put]
          exact kept d o good
      | ok done =>
          rw [clearFrom_succ_of_ok put]
          exact ih (kept d o good)

/-- Of the pixels of a display those below an offset are off, and the others as they were. -/
def ClearedBelow (d e : δ) (pixels o : Nat) : Prop :=
  ∀ k < pixels, lit e k = (decide (o ≤ k) && lit d k)

theorem ClearedBelow.start (d : δ) (pixels : Nat) : ClearedBelow d d pixels 0 := by
  intro k _
  rw [decide_eq_true k.zero_le, Bool.true_and]

theorem ClearedBelow.off (cleared : ClearedBelow d e pixels o) (hk : k < pixels) (below : k < o) :
    lit e k = false := by
  rw [cleared k hk, decide_eq_false (Nat.not_le.mpr below), Bool.false_and]

theorem ClearedBelow.kept (cleared : ClearedBelow d e pixels o) (hk : k < pixels) (above : o ≤ k) :
    lit e k = lit d k := by
  rw [cleared k hk, decide_eq_true above, Bool.true_and]

/-- One step of the loop turns the next pixel off. -/
theorem ClearedBelow.set (cleared : ClearedBelow d e pixels o) (stores : Stores e pixels)
    (ho : o < pixels) : ClearedBelow d (set e o 0).state pixels (o + 1) := by
  intro k hk
  rw [stores.lit_set ho 0 hk]
  by_cases same : k = o
  · have below : ¬ o + 1 ≤ k := by omega
    rw [if_pos same, decide_eq_false below]
    rfl
  · have next : o + 1 ≤ k ↔ o ≤ k := by omega
    rw [if_neg same, cleared k hk]
    simp only [next]

/-- Over offsets that are stored the loop gets through. -/
theorem clearFrom_of_fits (stores : Stores e pixels) (cleared : ClearedBelow d e pixels o)
    (fits : o + n ≤ pixels) :
    ∃ g, clearFrom set n o e = ⟨.ok (), g⟩ ∧ Stores g pixels ∧
      ClearedBelow d g pixels (o + n) := by
  induction n generalizing e o with
  | zero => exact ⟨e, rfl, stores, cleared⟩
  | succ n ih =>
      have ho : o < pixels := by omega
      have shift : o + (n + 1) = o + 1 + n := by omega
      rw [shift] at fits ⊢
      rw [clearFrom_succ_of_ok (stores.honours.set_ok ho 0)]
      exact ih (stores.after_set ho 0) (cleared.set stores ho) fits

/-- Where what is stored ends first, the loop gets that far and fails. -/
theorem clearFrom_of_short (stores : Stores e pixels) (cleared : ClearedBelow d e pixels o)
    (ho : o ≤ pixels) (short : pixels < o + n) :
    ∃ g, clearFrom set n o e =
        ⟨.error (.addressOutOfRange pixels), (set g pixels 0).state⟩ ∧ Stores g pixels ∧
      ClearedBelow d g pixels pixels := by
  induction n generalizing e o with
  | zero => omega
  | succ n ih =>
      rcases Nat.eq_or_lt_of_le ho with rfl | inside
      · -- The loop has come to the end of what is stored.
        rw [clearFrom_succ_of_error (stores.refused (Nat.le_refl o) 0).1]
        exact ⟨e, rfl, stores, cleared⟩
      · rw [clearFrom_succ_of_ok (stores.honours.set_ok inside 0)]
        exact ih (stores.after_set inside 0) (cleared.set stores inside) inside (by omega)

/-! ## The plane after the loop -/

/-- The display with its own clear, if it has one, forgotten. -/
@[reducible]
def pixelwise (δ : Type) [Display δ] : Display δ where
  width := width
  height := height
  get := get
  set := set

/-- The plane cleared as by a display that has no clear of its own. -/
def clearEach (d : δ) : Attempt Stop δ Unit := (pixelwise δ).clear d

/-- The number of pixels of the plane, if a word can count them. -/
def area (d : δ) : Except Stop Nat := pixelCount (width d) (height d)

theorem area_of_lt (counted : width d * height d < UInt64.size) :
    area d = .ok (width d * height d) := if_pos counted

theorem clearEach_of_counted (counted : area d = .ok n) :
    clearEach d =
      ⟨Stop.ofFault (clearFrom set n 0 d).result, (clearFrom set n 0 d).state⟩ := by
  change clearPlane set (width d) (height d) d = _
  rw [clearPlane, show pixelCount (width d) (height d) = .ok n from counted]

theorem clearEach_of_uncounted {stop : Stop} (uncounted : area d = .error stop) :
    clearEach d = ⟨.error stop, d⟩ := by
  change clearPlane set (width d) (height d) d = _
  rw [clearPlane, show pixelCount (width d) (height d) = .error stop from uncounted]

/-- What comes of clearing a plane of some pixels, one by one, on a display that stores a number
of them. -/
structure ClearsStored (d : δ) (stored pixels : Nat) : Prop where
  /-- It succeeds where the whole plane is stored. -/
  succeeds : pixels ≤ stored → (clearEach d).result = .ok ()
  /-- Where it is not, the first offset beyond what is stored is refused. -/
  fails : stored < pixels → (clearEach d).result = .error (.fault (.addressOutOfRange stored))
  /-- In both cases every stored pixel of the plane is off. -/
  off : ∀ o < stored, o < pixels → get (clearEach d).state o = .ok 0
  /-- What is stored beside the plane is left alone. -/
  kept : ∀ o < stored, pixels ≤ o → lit (clearEach d).state o = lit d o

theorem Stores.clearsStored {stored : Nat} (stores : Stores d stored) (counted : area d = .ok n) :
    ClearsStored d stored n := by
  have loop := clearEach_of_counted counted
  rcases Nat.lt_or_ge stored n with short | fits
  · obtain ⟨g, left, still, cleared⟩ := clearFrom_of_short (n := n) stores
      (.start d stored) stored.zero_le (by rwa [Nat.zero_add])
    rw [left] at loop
    constructor
    case succeeds => exact fun fits => absurd short (Nat.not_lt.mpr fits)
    case fails =>
      intro _
      rw [loop]
      rfl
    case off =>
      intro o ho _
      rw [loop, (still.refused (Nat.le_refl stored) 0).2 o ho]
      exact still.get_of_off ho (cleared.off ho ho)
    case kept => exact fun o ho beside => absurd ho (by omega)
  · obtain ⟨g, left, still, cleared⟩ := clearFrom_of_fits (n := n) stores
      (.start d stored) (by rwa [Nat.zero_add])
    rw [left] at loop
    rw [Nat.zero_add] at cleared
    constructor
    case succeeds =>
      intro _
      rw [loop]
      rfl
    case fails => exact fun short => absurd short (Nat.not_lt.mpr fits)
    case off =>
      intro o ho inside
      rw [loop]
      exact still.get_of_off ho (cleared.off ho inside)
    case kept =>
      intro o ho beside
      rw [loop]
      exact cleared.kept ho beside

end Chip8.Display

namespace Chip8

/-! ## Frame buffers -/

namespace FrameBuffer

variable {f g : FrameBuffer}

/-- A frame buffer stores its plane. -/
theorem stores (f : FrameBuffer) : Display.Stores f (f.width * f.height) := by
  refine Display.stores_of_invariant (SameSize f) (fun _ o value same _ => same.set o value)
    ?_ ?_ f.honours ⟨rfl, rfl⟩
  · rintro g ⟨width, height⟩ o ho value k _
    exact lit_set g (by rwa [width, height]) value k
  · rintro g ⟨width, height⟩ o beyond value
    rw [← width, ← height] at beyond
    rw [display_set, set_of_le g value beyond]
    exact ⟨rfl, fun _ _ => rfl⟩

theorem lit_eq_getElem (f : FrameBuffer) {o : Nat} (ho : o < f.width * f.height) :
    Display.lit f o = f.pixels[o] := by
  rw [Display.lit_of_get (get_of_lt f ho), Display.pixelValue_ne_zero]

/-- Planes of one size are told apart by their pixels. -/
theorem eq_of_lit (size : SameSize f g)
    (same : ∀ o < f.width * f.height, Display.lit g o = Display.lit f o) : g = f := by
  obtain ⟨width, height, pixels⟩ := f
  obtain ⟨_, _, others⟩ := g
  obtain ⟨rfl, rfl⟩ : _ = width ∧ _ = height := size
  refine congrArg (FrameBuffer.mk _ _) (Vector.ext fun o ho => ?_)
  have pixel := same o ho
  rwa [lit_eq_getElem _ ho, lit_eq_getElem _ ho] at pixel

theorem lit_clear (f : FrameBuffer) {o : Nat} (ho : o < f.width * f.height) :
    Display.lit f.clear o = false := by
  rw [lit_eq_getElem f.clear ho]
  exact Vector.getElem_replicate ho

/-- A word can count the pixels of a frame buffer that could be made. -/
theorem area_of_capacity (small : f.width * f.height ≤ capacity) :
    Display.area f = .ok (f.width * f.height) :=
  Display.area_of_lt (Nat.lt_of_le_of_lt small (by decide))

theorem clearEach_eq_clear (f : FrameBuffer) (small : f.width * f.height ≤ capacity) :
    Display.clearEach f = ⟨.ok (), f.clear⟩ := by
  have counted := area_of_capacity small
  have cleared := f.stores.clearsStored counted
  have size : SameSize f.clear (Display.clearEach f).state := by
    rw [Display.clearEach_of_counted counted]
    exact Display.clearFrom_keeps (SameSize f) (fun _ o same => same.set o 0) ⟨rfl, rfl⟩
  have plane : (Display.clearEach f).state = f.clear := by
    refine eq_of_lit size fun o ho => ?_
    rw [Display.lit_of_get (cleared.off o ho ho), lit_clear f ho]
    rfl
  rw [← plane, ← cleared.succeeds (Nat.le_refl _)]

end FrameBuffer

/-! ## Panels -/

namespace Panel

variable {p : Panel} {o k : Nat}

theorem set_of_lt (value : UInt8) (ho : o < p.cells.size) :
    Display.set p o value = ⟨.ok (), p.put o value ho⟩ := dif_pos ho

theorem set_of_le (value : UInt8) (ho : p.cells.size ≤ o) :
    Display.set p o value = ⟨.error (.addressOutOfRange o), p⟩ := dif_neg (Nat.not_lt.mpr ho)

theorem lit_eq_getElem (ho : o < p.cells.size) : Display.lit p o = (p.cells[o] != 0) :=
  Display.lit_of_get (dif_pos ho)

theorem lit_put (value : UInt8) (ho : o < p.cells.size) (hk : k < p.cells.size) :
    Display.lit (p.put o value ho) k = if k = o then value != 0 else Display.lit p k := by
  have inside : k < (p.cells.set o value ho).size := by rwa [Array.size_set]
  have shown : Display.lit (p.put o value ho) k = ((p.cells.set o value ho)[k] != 0) :=
    lit_eq_getElem inside
  rw [shown, lit_eq_getElem hk]
  by_cases same : k = o
  · subst same
    rw [Array.getElem_set_self, if_pos rfl]
  · rw [Array.getElem_set_ne ho hk (Ne.symm same), if_neg same]

/-- A panel stores as many pixels as it has cells. -/
theorem stores (p : Panel) : Display.Stores p p.cells.size := by
  refine Display.stores_of_invariant (fun q => q.cells.size = p.cells.size) ?_ ?_ ?_
    p.honours rfl
  · intro q o value size ho
    rw [← size] at ho
    rw [set_of_lt value ho, ← size]
    exact Array.size_set ho
  · intro q size o ho value k hk
    rw [← size] at ho hk
    rw [set_of_lt value ho]
    exact lit_put value ho hk
  · intro q size o beyond value
    rw [← size] at beyond
    rw [set_of_le value beyond]
    exact ⟨rfl, fun _ _ => rfl⟩

/-- A panel has no clear of its own. -/
theorem clear_eq_clearEach (p : Panel) : Display.clear p = Display.clearEach p := rfl

end Panel

/-! ## Every display -/

namespace Display

/-- A plane of eight pixels of which three are stored, all lit. -/
def threeOfEight : Panel := ⟨4, 2, #[1, 1, 7]⟩

-- A word does not count `2 ^ 64` pixels, and so the three that are stored stay lit.
example :
    Display.clear { threeOfEight with width := UInt32.size, height := UInt32.size } =
      ⟨.error .crash, ⟨UInt32.size, UInt32.size, #[1, 1, 7]⟩⟩ := rfl

end Display

end Chip8
