import VideoPreview.Frame
import VideoPreview.Proofs.Alike
import VideoPreview.Synthetic.Bands
import VideoPreview.Synthetic.Video

/-! The copy of a picture as it is carried out: row by row, between bounds that are checked and in
words of 64 bits. Nothing goes wrong with a well-formed picture, and the pixels of the copy are
those of the picture, whatever was in the buffer before and between the rows. -/
namespace VideoPreview

def word? (n : Nat) : Option Nat := if n < UInt64.size then some n else none

def difference? (m n : Nat) : Option Nat := if n ≤ m then some (m - n) else none

def saturated (n : Nat) : Nat := min n (UInt64.size - 1)

namespace Pixels

def slice? (pixels : Pixels) (start stop : Nat) : Option Pixels :=
  if start ≤ stop ∧ stop ≤ pixels.size then some (pixels.extract start stop) else none

def overwrite? (pixels : Pixels) (start stop : Nat) (piece : Pixels) : Option Pixels :=
  if start ≤ stop ∧ stop ≤ pixels.size ∧ piece.size = stop - start then
    some (pixels.extract 0 start ++ piece ++ pixels.extract stop pixels.size)
  else none

theorem overwriteNext {target done piece : Pixels}
    (room : (done ++ piece).size ≤ target.size) :
    overwrite? (done ++ target.extract done.size target.size) done.size (done ++ piece).size piece =
      some (done ++ piece ++ target.extract (done ++ piece).size target.size) := by
  rw [Array.size_append] at room ⊢
  have before : (done ++ target.extract done.size target.size).extract 0 done.size = done := by
    simp [Array.extract_append]
  have after : (done ++ target.extract done.size target.size).extract (done.size + piece.size)
      (done ++ target.extract done.size target.size).size =
        target.extract (done.size + piece.size) target.size := by
    have gone (stop : Nat) : done.extract (done.size + piece.size) stop = #[] :=
      Array.extract_empty_of_size_le_start (Nat.le_add_right ..)
    have whole : min (done.size + (target.size - done.size)) target.size = target.size := by omega
    simp [Array.extract_append, gone, whole]
  have fits : done.size ≤ done.size + piece.size ∧
      done.size + piece.size ≤ (done ++ target.extract done.size target.size).size ∧
      piece.size = done.size + piece.size - done.size := by
    rw [Array.size_append, Array.size_extract]
    omega
  rw [overwrite?, if_pos fits, before, after]

end Pixels

namespace Picture

def storedRow? (p : Picture) (y : Nat) : Option Nat :=
  if p.flipped then do
    let last ← difference? p.height.toNat 1
    difference? last y
  else some y

def copyRow? (p : Picture) (row : Nat) (target : Pixels) (y : Nat) : Option Pixels := do
  let stored ← p.storedRow? y
  let start ← word? (stored * p.stride)
  let stop ← word? (start + row)
  let piece ← Pixels.slice? p.data start stop
  let start ← word? (y * row)
  let next ← word? (y + 1)
  let stop ← word? (next * row)
  Pixels.overwrite? target start stop piece

def copyRows? (p : Picture) (target : Pixels) : Option Pixels := do
  let row ← word? (p.width.toNat * bytesPerPixel)
  (List.range p.height.toNat).foldlM (p.copyRow? row) target

def copied (p : Picture) (target : Pixels) (rows : Nat) : Pixels :=
  let done := (Array.range rows).flatMap p.row
  done ++ target.extract done.size target.size

def pixel (p : Picture) (x y : Nat) : Pixels :=
  p.data.extract (p.storedRow y * p.stride + 4 * x) (p.storedRow y * p.stride + 4 * x + 4)

section
variable {p : Picture}

theorem rangeZero : (Array.range 0).flatMap p.row = #[] := rfl

theorem rangeSucc (k : Nat) :
    (Array.range (k + 1)).flatMap p.row = (Array.range k).flatMap p.row ++ p.row k := by
  rw [Array.range_succ, Array.flatMap_append]
  simp

theorem rowsSize (ok : p.isWellFormed = true) {k : Nat} (within : k ≤ p.height.toNat) :
    ((Array.range k).flatMap p.row).size = k * p.rowBytes := by
  induction k with
  | zero => simp [rangeZero]
  | succ k ih =>
    rw [rangeSucc, Array.size_append, ih (Nat.le_of_succ_le within), rowSize ok within,
      Nat.succ_mul]

theorem storedRowFound {y : Nat} (inside : y < p.height.toNat) :
    p.storedRow? y = some (p.storedRow y) := by
  unfold storedRow? storedRow difference?
  cases p.flipped with
  | false => rfl
  | true =>
    have above : 1 ≤ p.height.toNat := by omega
    have within : y ≤ p.height.toNat - 1 := by omega
    simp [above, within]

theorem wordFits {n : Nat} (small : n < 2 ^ 63) : word? n = some n :=
  if_pos (Nat.lt_trans small (by decide))

variable {target : Pixels}

theorem fullSize (fits : target.size = (⟨p.width, p.height⟩ : PictureSize).bytes) :
    target.size = p.height.toNat * p.rowBytes := by
  rw [fits, PictureSize.bytes, rowBytes]
  ring

theorem rowsRoom (ok : p.isWellFormed = true) {k : Nat} (within : k ≤ p.height.toNat) :
    k * p.rowBytes ≤ p.data.size := by
  obtain ⟨wide, long⟩ := wellFormedBounds ok
  calc k * p.rowBytes ≤ p.height.toNat * p.stride := Nat.mul_le_mul within wide
    _ = p.stride * p.height.toNat := Nat.mul_comm _ _
    _ ≤ p.data.size := long

theorem copiedStart (p : Picture) (target : Pixels) : p.copied target 0 = target := by
  simp [copied, rangeZero]

theorem copyRowFound (ok : p.isWellFormed = true) (small : p.data.size < 2 ^ 63) {y : Nat}
    (inside : y < p.height.toNat) :
    p.copyRow? p.rowBytes target y =
      Pixels.overwrite? target (y * p.rowBytes) ((y + 1) * p.rowBytes) (p.row y) := by
  have read := rowInside ok inside
  have room : (y + 1) * p.rowBytes ≤ p.data.size := rowsRoom ok inside
  have next : (y + 1) * p.rowBytes = y * p.rowBytes + p.rowBytes := Nat.succ_mul ..
  have counted : y + 1 < 2 ^ 63 := by
    have := p.height.toNat_lt
    omega
  have sliced : Pixels.slice? p.data (p.storedRow y * p.stride)
      (p.storedRow y * p.stride + p.rowBytes) = some (p.row y) :=
    if_pos ⟨Nat.le_add_right .., read⟩
  simp only [copyRow?, storedRowFound inside, Option.bind_eq_bind, Option.bind_some,
    wordFits (n := p.storedRow y * p.stride) (by omega),
    wordFits (n := p.storedRow y * p.stride + p.rowBytes) (by omega), sliced,
    wordFits (n := y * p.rowBytes) (by omega), wordFits counted,
    wordFits (n := (y + 1) * p.rowBytes) (by omega)]

theorem copyRowNext (ok : p.isWellFormed = true) (small : p.data.size < 2 ^ 63)
    (fits : target.size = (⟨p.width, p.height⟩ : PictureSize).bytes) {y : Nat}
    (inside : y < p.height.toNat) :
    p.copyRow? p.rowBytes (p.copied target y) y = some (p.copied target (y + 1)) := by
  have done := rowsSize ok (Nat.le_of_lt inside)
  have together : ((Array.range y).flatMap p.row ++ p.row y).size = (y + 1) * p.rowBytes := by
    rw [Array.size_append, done, rowSize ok inside, Nat.succ_mul]
  have written : (y + 1) * p.rowBytes ≤ target.size :=
    fullSize fits ▸ Nat.mul_le_mul_right _ inside
  rw [copyRowFound ok small inside, copied, copied, rangeSucc, ← together, ← done]
  exact Pixels.overwriteNext (together ▸ written)

theorem copyRowsFull (ok : p.isWellFormed = true) (small : p.data.size < 2 ^ 63)
    (fits : target.size = (⟨p.width, p.height⟩ : PictureSize).bytes) :
    p.copyRows? target = some (p.copyInto target) := by
  have rows (k : Nat) (within : k ≤ p.height.toNat) :
      (List.range k).foldlM (p.copyRow? p.rowBytes) target = some (p.copied target k) := by
    induction k with
    | zero => rw [copiedStart]; rfl
    | succ k ih =>
      rw [List.range_succ, List.foldlM_append, ih (Nat.le_of_succ_le within)]
      simpa using copyRowNext ok small fits within
  have row : word? (p.width.toNat * bytesPerPixel) = some p.rowBytes := by
    refine if_pos ?_
    have := p.width.toNat_lt
    have : UInt64.size = 2 ^ 64 := rfl
    simp only [bytesPerPixel]
    omega
  simp only [copyRows?, row]
  exact rows _ (Nat.le_refl _)

theorem rowGet {y j : Nat} (inRow : j < p.rowBytes) :
    (p.row y)[j]? = p.data[p.storedRow y * p.stride + j]? := by
  rw [row, Array.getElem?_extract]
  split
  case isTrue => rfl
  case isFalse outside =>
    refine (Array.getElem?_eq_none ?_).symm
    omega

theorem rowsGet (ok : p.isWellFormed = true) {k y j : Nat} (within : k ≤ p.height.toNat)
    (above : y < k) (inRow : j < p.rowBytes) :
    ((Array.range k).flatMap p.row)[y * p.rowBytes + j]? =
      p.data[p.storedRow y * p.stride + j]? := by
  induction k with
  | zero => omega
  | succ k ih =>
    have size := rowsSize ok (Nat.le_of_succ_le within)
    rw [rangeSucc]
    rcases Nat.lt_or_eq_of_le (Nat.le_of_lt_succ above) with earlier | rfl
    · have before : y * p.rowBytes + j < k * p.rowBytes := by
        calc y * p.rowBytes + j < y * p.rowBytes + p.rowBytes := Nat.add_lt_add_left inRow _
          _ = (y + 1) * p.rowBytes := (Nat.succ_mul ..).symm
          _ ≤ k * p.rowBytes := Nat.mul_le_mul_right _ earlier
      rw [Array.getElem?_append_left (size ▸ before)]
      exact ih (Nat.le_of_succ_le within) earlier
    · rw [Array.getElem?_append_right (size ▸ Nat.le_add_right ..), size, Nat.add_sub_cancel_left]
      exact rowGet inRow

theorem pixelPlace {x y : Nat} (right : x < p.width.toNat) :
    (y * p.width.toNat + x) * 4 = y * p.rowBytes + 4 * x ∧ 4 * x + 4 ≤ p.rowBytes := by
  unfold rowBytes bytesPerPixel
  constructor
  · ring
  · omega

theorem pixelInside (ok : p.isWellFormed = true) {x y : Nat} (right : x < p.width.toNat)
    (inside : y < p.height.toNat) : p.storedRow y * p.stride + 4 * x + 4 ≤ p.data.size := by
  have inRow := (pixelPlace (p := p) (y := y) right).2
  have read := rowInside ok inside
  omega

theorem placeInside (ok : p.isWellFormed = true) {x y : Nat} (right : x < p.width.toNat)
    (inside : y < p.height.toNat) : (y * p.width.toNat + x) * 4 + 4 ≤ p.packed.size := by
  obtain ⟨place, inRow⟩ := pixelPlace (p := p) (y := y) right
  rw [place, packed, rowsSize ok (Nat.le_refl _)]
  calc y * p.rowBytes + 4 * x + 4 ≤ y * p.rowBytes + p.rowBytes := by omega
    _ = (y + 1) * p.rowBytes := (Nat.succ_mul ..).symm
    _ ≤ p.height.toNat * p.rowBytes := Nat.mul_le_mul_right _ inside

theorem packedPixel (ok : p.isWellFormed = true) {x y : Nat} (right : x < p.width.toNat)
    (inside : y < p.height.toNat) :
    p.packed.extract ((y * p.width.toNat + x) * 4) ((y * p.width.toNat + x) * 4 + 4) =
      p.pixel x y := by
  obtain ⟨place, inRow⟩ := pixelPlace (p := p) (y := y) right
  have stored := pixelInside ok right inside
  have written := placeInside ok right inside
  refine Array.ext_getElem? fun c => ?_
  rw [pixel, Array.getElem?_extract, Array.getElem?_extract]
  by_cases byte : c < 4
  · rw [if_pos (by omega), if_pos (by omega), place, Nat.add_assoc, Nat.add_assoc]
    exact rowsGet ok (Nat.le_refl _) inside (by omega)
  · rw [if_neg (by omega), if_neg (by omega)]

theorem packedByte (ok : p.isWellFormed = true) {x y c : Nat} (right : x < p.width.toNat)
    (inside : y < p.height.toNat) (byte : c < 4) :
    p.packed[(y * p.width.toNat + x) * 4 + c]? = (p.pixel x y)[c]? := by
  have written := placeInside ok right inside
  rw [← packedPixel ok right inside, Array.getElem?_extract, if_pos (by omega)]

theorem everyPlace {w h i : Nat} (inside : i < w * h * 4) :
    ∃ x y c, x < w ∧ y < h ∧ c < 4 ∧ i = (y * w + x) * 4 + c := by
  have pixel : i / 4 < w * h := by omega
  have wide : 0 < w := Nat.pos_of_ne_zero fun none => by simp [none] at pixel
  refine ⟨i / 4 % w, i / 4 / w, i % 4, Nat.mod_lt _ wide, Nat.div_lt_of_lt_mul pixel,
    Nat.mod_lt _ (by decide), ?_⟩
  rw [Nat.div_add_mod', Nat.div_add_mod']

theorem packedDetermined {q : Picture} (ok : p.isWellFormed = true) (ok' : q.isWellFormed = true)
    (width : q.width = p.width) (height : q.height = p.height)
    (same : ∀ x y, x < p.width.toNat → y < p.height.toNat → q.pixel x y = p.pixel x y) :
    q.packed = p.packed := by
  have size := packedSize ok
  have size' := packedSize ok'
  rw [width, height] at size'
  refine Array.ext_getElem? fun i => ?_
  by_cases inside : i < p.packed.size
  · obtain ⟨x, y, c, right, low, byte, rfl⟩ := everyPlace (size ▸ inside)
    rw [packedByte ok right low byte, ← same x y right low]
    rw [← width] at right ⊢
    exact packedByte ok' right (height ▸ low) byte
  · rw [Array.getElem?_eq_none (by omega), Array.getElem?_eq_none (by omega)]

theorem pixelRead {f : Frame} (ok : p.isWellFormed = true)
    (buffer : f.buffer = ⟨⟨p.width, p.height⟩, p.packed⟩) (x y : UInt32) :
    f.pixel? x y =
      if x < p.width ∧ y < p.height then some (p.pixel x.toNat y.toNat).toList else none := by
  unfold Frame.pixel? Frame.width Frame.height
  rw [buffer]
  by_cases inside : x < p.width ∧ y < p.height
  · obtain ⟨right, low⟩ := inside
    have read := placeInside ok (UInt32.lt_iff_toNat_lt.mp right) (UInt32.lt_iff_toNat_lt.mp low)
    have shown := packedPixel ok (UInt32.lt_iff_toNat_lt.mp right) (UInt32.lt_iff_toNat_lt.mp low)
    simp [bytesPerPixel, UInt32.not_le.mpr right, UInt32.not_le.mpr low, right, low, read, shown]
  · have outside : p.width ≤ x ∨ p.height ≤ y := by
      rw [← UInt32.not_lt, ← UInt32.not_lt]
      exact Decidable.not_and_iff_not_or_not.mp inside
    simp [inside, outside]

structure CopiesExactly (p : Picture) (target : Pixels) : Prop where
  checked : p.copyRows? target = some (p.copyInto target)
  size : (p.copyInto target).size = p.width.toNat * p.height.toNat * 4
  words : target.size = saturated (saturated (p.width.toNat * p.height.toNat) * 4)
  pixels : ∀ x y, x < p.width.toNat → y < p.height.toNat →
    p.storedRow y * p.stride + 4 * x + 4 ≤ p.data.size ∧
      (p.copyInto target).extract ((y * p.width.toNat + x) * 4)
        ((y * p.width.toNat + x) * 4 + 4) = p.pixel x y
  nothingElse : ∀ (q : Picture) (other : Pixels), q.isWellFormed = true → q.width = p.width →
    q.height = p.height → other.size = target.size →
    (∀ x y, x < p.width.toNat → y < p.height.toNat → q.pixel x y = p.pixel x y) →
    q.copyInto other = p.copyInto target
  read : ∀ f : Frame, f.buffer = ⟨⟨p.width, p.height⟩, p.copyInto target⟩ → ∀ x y : UInt32,
    f.pixel? x y =
      if x < p.width ∧ y < p.height then some (p.pixel x.toNat y.toNat).toList else none

theorem copiesExactly (ok : p.isWellFormed = true) (small : p.data.size < 2 ^ 63)
    (fits : target.size = (⟨p.width, p.height⟩ : PictureSize).bytes) :
    p.CopiesExactly target := by
  have same := copyIntoFull ok fits
  have bytes : target.size = p.width.toNat * p.height.toNat * 4 := fits
  have room : target.size ≤ p.data.size := fullSize fits ▸ rowsRoom ok (Nat.le_refl _)
  refine ⟨copyRowsFull ok small fits, same ▸ packedSize ok, ?_, fun x y right inside => ?_, ?_, ?_⟩
  · have largest : UInt64.size = 2 ^ 64 := rfl
    unfold saturated
    omega
  · exact ⟨pixelInside ok right inside, same ▸ packedPixel ok right inside⟩
  · intro q other ok' width height size pixels
    rw [same, copyIntoFull ok' (by rw [width, height, size, fits])]
    exact packedDetermined ok ok' width height pixels
  · intro f buffer
    exact pixelRead ok (same ▸ buffer)

theorem wellFormedSaturated (small : p.data.size < 2 ^ 63) :
    p.isWellFormed =
      (decide (p.rowBytes ≤ p.stride) && saturated (p.stride * p.height.toNat) ≤ p.data.size) := by
  have largest : UInt64.size = 2 ^ 64 := rfl
  have same : saturated (p.stride * p.height.toNat) ≤ p.data.size ↔
      p.stride * p.height.toNat ≤ p.data.size := by
    unfold saturated
    omega
  rw [isWellFormed, decide_eq_decide.mpr same]

theorem malformedIff : p.isWellFormed = false ↔
    p.stride < 4 * p.width.toNat ∨ p.data.size < p.stride * p.height.toNat := by
  rw [isWellFormed, Bool.and_eq_false_iff, decide_eq_false_iff_not, decide_eq_false_iff_not,
    Nat.not_le, Nat.not_le, rowBytes, bytesPerPixel, Nat.mul_comm]

end
end Picture

/-! ### From the stream to the frame -/

namespace Worker

variable {σ ρ : Type} {w w' : Worker σ ρ}

structure Sound (w : Worker σ ρ) : Prop where
  fits : w.pool.Fits
  whole : ∀ d, w.decoded = some d → d.2.isWellFormed = true

theorem Sound.alike (sound : w.Sound) : Alike w w :=
  .other w.pool w.counts w.calls sound.fits sound.fits sound.whole

theorem Alike.sound (alike : Alike w w') : w.Sound := by
  obtain ⟨pool, counts, calls, fits, otherFits, whole⟩ := alike
  exact ⟨fits, whole⟩

structure Rejects (w : Worker σ ρ) (n : UInt64) (produced : Attempt SourceError α × Worker σ ρ) :
    Prop where
  outcome : produced.1 =
    .refused (.undecodable n "decoder returned a buffer smaller than its geometry")
  pool : produced.2.pool = w.pool
  renderer : produced.2.renderer = w.renderer
  framesMade : produced.2.framesMade = w.framesMade

structure Copies [FrameSource σ] [SubtitleRenderer ρ] (w : Worker σ ρ) : Prop where
  given : ∀ n p w', w.picture n = (.done p, w') → p.isWellFormed = true ∧
    (w'.pool.borrow ⟨p.width, p.height⟩).2.data.size = (⟨p.width, p.height⟩ : PictureSize).bytes
  bare : ∀ n p w', w.picture n = (.done p, w') → ∀ t lines f fault,
    (w'.draw n t lines p).1 = .done ⟨f, fault⟩ → f.hasSubtitles = false →
    ∃ target, target.size = (⟨p.width, p.height⟩ : PictureSize).bytes ∧
      f.buffer = ⟨⟨p.width, p.height⟩, p.copyInto target⟩
  refused : ∀ n t withSubtitles p, w.renderedBefore? n t (w.lines t withSubtitles) = none →
    n < w.frameCount → w.decodedBefore? n = none →
    (FrameSource.decode n w.source).1 = .done p → p.isWellFormed = false →
    w.Rejects n (w.produce n t withSubtitles)

variable [FrameSource σ] [SubtitleRenderer ρ]

theorem workedSound {first w : Worker σ ρ} {done : List Request} {yields : List Yield}
    (worked : Worked first done yields w) (sound : first.Sound) : w.Sound := by
  induction worked with
  | start => exact sound
  | job earlier q current ih => exact (carryOutAlike ih.alike current current _).2.sound
  | letGo earlier b ih => exact ⟨Pool.releaseFits ih.fits b, ih.whole⟩
  | forget earlier ih => exact ⟨ih.fits, fun _ kept => nomatch kept⟩

omit [SubtitleRenderer ρ] in
theorem pictureSound (sound : w.Sound) {n : UInt64} {p : Picture}
    (given : w.picture n = (.done p, w')) : p.isWellFormed = true ∧ w'.Sound := by
  obtain ⟨-, alike, whole⟩ := pictureAlike sound.alike n
  rw [given] at alike whole
  exact ⟨whole p rfl, alike.sound⟩

theorem drawBare (sound : w.Sound) {p : Picture} (ok : p.isWellFormed = true) {n : UInt64}
    {t : Int64} {lines : List SubtitleLine} {f : Frame} {fault : Option SubtitleError}
    (drawn : (w.draw n t lines p).1 = .done ⟨f, fault⟩) (bare : f.hasSubtitles = false) :
    ∃ target, target.size = (⟨p.width, p.height⟩ : PictureSize).bytes ∧
      f.buffer = ⟨⟨p.width, p.height⟩, p.copyInto target⟩ := by
  obtain ⟨-, full, size⟩ := Pool.borrowFits sound.fits ⟨p.width, p.height⟩
  unfold draw borrow at drawn
  generalize w.pool.borrow ⟨p.width, p.height⟩ = borrowed at full size drawn
  obtain ⟨pool, ⟨given, data⟩⟩ := borrowed
  cases size
  cases spoken : lines.isEmpty with
  | true =>
    simp only [spoken, if_true] at drawn
    obtain ⟨-, -, buffer, -⟩ := finishFrames drawn
    exact ⟨data, full, buffer⟩
  | false =>
    have kept := SubtitleRenderer.keepsSize
      ⟨⟨p.width, p.height⟩, p.copyInto data⟩ t lines w.renderer
    simp only [spoken, render, Bool.false_eq_true, if_false] at drawn
    generalize (SubtitleRenderer.render _ _ _ _ : Drawing ρ) = drawing at kept drawn
    obtain ⟨result, pixels, renderer⟩ := drawing
    cases result with
    | done u =>
      obtain ⟨-, -, -, subtitled⟩ := finishFrames drawn
      exact absurd (subtitled.symm.trans bare) (by simp [spoken])
    | refused error =>
      obtain ⟨-, -, buffer, -⟩ := finishFrames drawn
      exact ⟨pixels, kept.trans (Picture.copyIntoFull ok full ▸ Picture.packedSize ok), buffer⟩
    | panicked payload => cases drawn

omit [SubtitleRenderer ρ] in
theorem decodeMalformed {n : UInt64} {p : Picture}
    (found : (FrameSource.decode n w.source).1 = .done p) (malformed : p.isWellFormed = false) :
    w.Rejects n (w.decode n) := by
  unfold decode
  generalize FrameSource.decode n w.source = answer at found
  obtain ⟨outcome, left⟩ := answer
  cases found
  simp only [malformed, Bool.false_eq_true, if_false]
  exact ⟨rfl, rfl, rfl, rfl⟩

theorem produceMalformed {n : UInt64} {t : Int64} {withSubtitles : Bool} {p : Picture}
    (before : w.renderedBefore? n t (w.lines t withSubtitles) = none) (inside : n < w.frameCount)
    (missed : w.decodedBefore? n = none) (found : (FrameSource.decode n w.source).1 = .done p)
    (malformed : p.isWellFormed = false) : w.Rejects n (w.produce n t withSubtitles) := by
  unfold produce
  generalize w.lines t withSubtitles = lines at before ⊢
  generalize counted : { w with counts := _ } = counting
  have before : counting.renderedBefore? n t lines = none := counted ▸ before
  have outside : ¬counting.frameCount ≤ n := counted ▸ UInt64.not_le.mpr inside
  have asked : counting.picture n = counting.decode n := by
    rw [picture, show counting.decodedBefore? n = none from counted ▸ missed]
  have rejects : w.Rejects n (counting.decode n) := by
    rw [← counted]
    obtain ⟨outcome, pool, renderer, framesMade⟩ := decodeMalformed
      (w := { w with counts := { w.counts with computed := w.counts.computed + 1 } })
      found malformed
    exact ⟨outcome, pool, renderer, framesMade⟩
  simp only [before, outside, if_false, asked]
  generalize counting.decode n = decoded at rejects ⊢
  obtain ⟨outcome, w₁⟩ := decoded
  obtain ⟨rfl, pool, renderer, framesMade⟩ := rejects
  exact ⟨rfl, pool, renderer, framesMade⟩

theorem soundCopies (sound : w.Sound) : w.Copies := by
  refine ⟨fun n p w' given => ?_, fun n p w' given t lines f fault drawn bare => ?_,
    fun n t withSubtitles p => produceMalformed⟩
  · obtain ⟨ok, sound⟩ := pictureSound sound given
    obtain ⟨-, full, size⟩ := Pool.borrowFits sound.fits ⟨p.width, p.height⟩
    exact ⟨ok, full.trans (congrArg _ size)⟩
  · obtain ⟨ok, sound⟩ := pictureSound sound given
    exact drawBare sound ok drawn bare

end Worker

open Life in
/-- No allocation has 2^63 bytes or more. -/
theorem picturesCopied [FrameSource σ] [SubtitleRenderer ρ] (trampoline : Trampoline)
    (handling : FailureHandling) (id : Nat) (queue path : String) (source : σ) (renderer : ρ)
    (viewer : Nat) (options : PipelineOptions) (moves : List Pipeline.Move) :
    (∀ (p : Picture) (target : Pixels), p.isWellFormed = true → p.data.size < 2 ^ 63 →
        target.size = (⟨p.width, p.height⟩ : PictureSize).bytes → p.CopiesExactly target) ∧
      (∀ p : Picture, p.isWellFormed = false ↔
        p.stride < 4 * p.width.toNat ∨ p.data.size < p.stride * p.height.toNat) ∧
      (∀ p : Picture, p.data.size < 2 ^ 63 → p.isWellFormed =
        (decide (p.rowBytes ≤ p.stride) &&
          saturated (p.stride * p.height.toNat) ≤ p.data.size)) ∧
      ((begin trampoline handling (.start id queue path source renderer viewer options)).run
        moves).pipeline.worker.Copies := by
  refine ⟨fun p target ok small fits => Picture.copiesExactly ok small fits,
    fun p => Picture.malformedIff, fun p small => Picture.wellFormedSaturated small, ?_⟩
  obtain ⟨done, waiting, lost, yields, course⟩ :=
    runCourse trampoline handling id queue path source renderer viewer options moves
  exact Worker.soundCopies (Worker.workedSound course.worked
    (Worker.startAlike id source renderer _ options).sound)

theorem picturesCopiedUpsideDown :
    let p : Picture := ⟨1, 2, 6, true, #[1, 2, 3, 4, 0, 0, 5, 6, 7, 8, 0, 0]⟩
    let target : Pixels := Array.replicate 8 255
    p.CopiesExactly target ∧ p.copyInto target = #[5, 6, 7, 8, 1, 2, 3, 4] := by
  intro p target
  obtain ⟨exactly, -⟩ := picturesCopied .pump .record 0 "serial-1" "film.mkv"
    (⟨.default, "TV.601"⟩ : SyntheticStream) BandRenderer.default 0 .default []
  exact ⟨exactly p target (by decide) (by decide) (by decide), by decide⟩

end VideoPreview
