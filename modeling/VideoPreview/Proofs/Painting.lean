import VideoPreview.Proofs.Copying

/-! What the bands leave of a picture. The bands of `k` lines are together the rows from the top
down to `k` bands, though the numbers of the lines are cut to 32 bits and the rows at the largest
there is. Those rows are white and all else is as it was, and the slices that are written lie inside
the pixels. -/
namespace VideoPreview

theorem occursIff {marker text : List Char} : occursIn marker text = true ↔ marker <:+: text := by
  induction text with
  | nil => simp [occursIn]
  | cons c rest ih =>
    rw [occursIn, Bool.or_eq_true, ih, List.isPrefixOf_iff_prefix, List.infix_cons_iff]

theorem rowOfNatNat (n : Nat) : (rowOfNat n).toNat = min n (2 ^ 32 - 1) := by
  unfold rowOfNat
  refine UInt32.toNat_ofNat_of_lt' ?_
  have largest : UInt32.size = 2 ^ 32 := rfl
  omega

namespace Pixels

def white : Pixels := #[255, 255, 255, 255]

def Whitens (area : Nat → Prop) (before after : Pixels) : Prop :=
  ∀ j, (area j → after[j]? = before[j]?.map fun _ => 255) ∧ (¬area j → after[j]? = before[j]?)

variable {area other : Nat → Prop} {before between after : Pixels}

theorem whitensNothing (pixels : Pixels) : Whitens (fun _ => False) pixels pixels :=
  fun _ => ⟨False.elim, fun _ => rfl⟩

theorem Whitens.next (first : Whitens area before between) (second : Whitens other between after) :
    Whitens (fun j => area j ∨ other j) before after := by
  intro j
  obtain ⟨inside, outside⟩ := first j
  obtain ⟨inside', outside'⟩ := second j
  refine ⟨fun either => ?_, fun neither => ?_⟩
  · by_cases again : other j
    · rw [inside' again]
      by_cases once : area j
      · rw [inside once, Option.map_map]
        rfl
      · rw [outside once]
    · rw [outside' again, inside (either.resolve_right again)]
  · rw [not_or] at neither
    rw [outside' neither.2, outside neither.1]

theorem Whitens.same (whitens : Whitens area before after) (same : ∀ j, area j ↔ other j) :
    Whitens other before after :=
  fun j => ⟨fun inside => (whitens j).1 ((same j).mpr inside),
    fun outside => (whitens j).2 fun inside => outside ((same j).mp inside)⟩

theorem Whitens.unique {left right : Pixels} (first : Whitens area before left)
    (second : Whitens area before right) : left = right := by
  refine Array.ext_getElem? fun j => ?_
  by_cases inside : area j
  · rw [(first j).1 inside, (second j).1 inside]
  · rw [(first j).2 inside, (second j).2 inside]

theorem splicedWhitens {pixels : Pixels} {first last : Nat} (order : first ≤ last)
    (room : last ≤ pixels.size) :
    Whitens (fun j => first ≤ j ∧ j < last) pixels (pixels.extract 0 first ++
      Array.replicate (last - first) 255 ++ pixels.extract last pixels.size) := by
  have before : (pixels.extract 0 first).size = first := by
    rw [Array.size_extract]
    omega
  have upTo : (pixels.extract 0 first ++ Array.replicate (last - first) 255).size = last := by
    rw [Array.size_append, before, Array.size_replicate]
    omega
  refine fun j => ⟨fun ⟨below, early⟩ => ?_, fun outside => ?_⟩
  · rw [Array.getElem?_append_left (by omega), Array.getElem?_append_right (by omega),
      Array.getElem?_replicate, if_pos (by omega), Array.getElem?_eq_getElem (by omega)]
    rfl
  · rcases Nat.lt_or_ge j first with above | below
    · rw [Array.getElem?_append_left (by omega), Array.getElem?_append_left (by omega),
        Array.getElem?_extract, if_pos (by omega), Nat.zero_add]
    · have late : last ≤ j := by omega
      rw [Array.getElem?_append_right (by omega), upTo, Array.getElem?_extract, Nat.min_self,
        Nat.add_sub_cancel' late]
      split
      · rfl
      · exact (Array.getElem?_eq_none (by omega)).symm

theorem whitePixel {pixels : Pixels} {start : Nat}
    (bytes : ∀ c < 4, pixels[start + c]? = some 255) :
    pixels.extract start (start + 4) = white := by
  have size : start + 3 < pixels.size := (Array.getElem?_eq_some_iff.mp (bytes 3 (by omega))).1
  refine Array.ext_getElem? fun c => ?_
  rw [show white = Array.replicate 4 255 from rfl, Array.getElem?_replicate, Array.getElem?_extract]
  split
  · rw [if_pos (by omega), bytes c (by omega)]
  · rw [if_neg (by omega)]

end Pixels

namespace BandRenderer

variable {r : BandRenderer} {size : PictureSize} {pixels : Pixels}

def Marked (r : BandRenderer) (l : SubtitleLine) : Prop :=
  ∃ m, r.marker = some m ∧ m.toList <:+: l.text.toList

theorem refusesIff {l : SubtitleLine} : r.refuses l = true ↔ r.Marked l := by
  unfold refuses Marked
  cases r.marker with
  | none => simp
  | some m => simp [occursIff]

structure Drawn (r : BandRenderer) (lines : List SubtitleLine) (k : Nat) : Prop where
  plain : ∀ l ∈ lines.take k, ¬r.Marked l
  next : k = lines.length ∨ ∃ l, lines[k]? = some l ∧ r.Marked l

def verdict (k : Nat) : Option SubtitleLine → Attempt SubtitleError Unit
  | none => .done ()
  | some l => .refused ⟨s!"cannot render line {k}: {Text.quoted l.text}"⟩

def InBand (r : BandRenderer) (size : PictureSize) (i j : Nat) : Prop :=
  (r.bandStart i).toNat * (size.width.toNat * bytesPerPixel) ≤ j ∧
    j < min (r.bandStop i).toNat size.height.toNat * (size.width.toNat * bytesPerPixel)

theorem paintWhitens (row start stop : Nat) (pixels : Pixels) :
    Pixels.Whitens (fun j => start * row ≤ j ∧ j < stop * row) pixels
      (paint row start stop pixels) := by
  intro j
  rw [paint, Array.getElem?_mapIdx]
  refine ⟨fun inside => ?_, fun outside => ?_⟩
  · simp only [inside, and_self, if_true]
  · simp only [outside, if_false, Option.map_id']

theorem bandWhitens (r : BandRenderer) (size : PictureSize) (i : Nat) (pixels : Pixels) :
    Pixels.Whitens (r.InBand size i) pixels (r.drawBand size i pixels) :=
  paintWhitens _ _ _ pixels

theorem drawFromWhitens (r : BandRenderer) (size : PictureSize) (i : Nat)
    (lines : List SubtitleLine) (pixels : Pixels) :
    ∃ k, r.Drawn lines k ∧ (r.drawFrom size i lines pixels).1 = verdict (i + k) lines[k]? ∧
      Pixels.Whitens (fun j => ∃ n < k, r.InBand size (i + n) j) pixels
        (r.drawFrom size i lines pixels).2 := by
  have none (j : Nat) : False ↔ ∃ n < 0, r.InBand size (i + n) j := by simp
  induction lines generalizing i pixels with
  | nil => exact ⟨0, ⟨by simp, .inl rfl⟩, rfl, (Pixels.whitensNothing pixels).same none⟩
  | cons l rest ih =>
    rw [drawFrom]
    split
    · rename_i refused
      exact ⟨0, ⟨by simp, .inr ⟨l, rfl, refusesIff.mp refused⟩⟩, rfl,
        (Pixels.whitensNothing pixels).same none⟩
    · rename_i accepted
      obtain ⟨k, ⟨plain, next⟩, result, whitens⟩ :=
        ih (i + 1) (r.drawBand size i pixels) (by simp)
      refine ⟨k + 1, ⟨?_, ?_⟩, ?_, ?_⟩
      · rw [List.take_succ_cons]
        exact List.forall_mem_cons.mpr ⟨refusesIff.not.mp accepted, plain⟩
      · simpa using next
      · rw [result, Nat.add_right_comm, Nat.add_assoc]
        rfl
      · refine ((r.bandWhitens size i pixels).next whitens).same fun j => ?_
        simp only [Nat.exists_lt_succ_left, Nat.add_right_comm i 1, Nat.add_assoc, Nat.add_zero]

theorem bandStartNat (r : BandRenderer) (i : Nat) :
    (r.bandStart i).toNat = min (r.height.toNat * (i % 2 ^ 32)) (2 ^ 32 - 1) :=
  rowOfNatNat _

theorem bandStopNat (r : BandRenderer) (i : Nat) :
    (r.bandStop i).toNat = min (r.height.toNat * (i % 2 ^ 32 + 1)) (2 ^ 32 - 1) := by
  rw [bandStop, rowOfNatNat, bandStartNat, Nat.mul_succ]
  omega

theorem rowInBand (r : BandRenderer) {y k height : Nat} (inside : y < height)
    (low : height < 2 ^ 32) :
    (∃ i < k, (r.bandStart i).toNat ≤ y ∧ y < (r.bandStop i).toNat) ↔ y < r.height.toNat * k := by
  constructor
  · rintro ⟨i, before, -, lasting⟩
    have wrapped : i % 2 ^ 32 + 1 ≤ k := Nat.lt_of_le_of_lt (Nat.mod_le i _) before
    have upTo := Nat.mul_le_mul_left r.height.toNat wrapped
    rw [bandStopNat] at lasting
    omega
  · intro within
    have tall : 0 < r.height.toNat := Nat.pos_of_mul_pos_right (Nat.zero_lt_of_lt within)
    have whole := Nat.div_add_mod y r.height.toNat
    have rest := Nat.mod_lt y tall
    have shorter := Nat.div_le_self y r.height.toNat
    refine ⟨y / r.height.toNat, Nat.div_lt_of_lt_mul within, ?_, ?_⟩
    · rw [bandStartNat, Nat.mod_eq_of_lt (by omega)]
      omega
    · rw [bandStopNat, Nat.mod_eq_of_lt (by omega), Nat.mul_succ]
      omega

theorem bandsReach (r : BandRenderer) (size : PictureSize) (k j : Nat) :
    (∃ i < k, r.InBand size i j) ↔
      j < min size.height.toNat (r.height.toNat * k) * (size.width.toNat * bytesPerPixel) := by
  unfold InBand
  generalize size.width.toNat * bytesPerPixel = row
  rcases Nat.eq_zero_or_pos row with none | wide
  · simp [none]
  · simp only [← Nat.le_div_iff_mul_le wide, ← Nat.div_lt_iff_lt_mul wide, Nat.lt_min]
    by_cases inside : j / row < size.height.toNat
    · simp only [inside, and_true, true_and]
      exact r.rowInBand inside size.height.toNat_lt
    · simp [inside]

def whitened (piece : Pixels) : Pixels :=
  (Array.replicate (piece.size / bytesPerPixel) Pixels.white).flatten ++
    piece.extract (piece.size / bytesPerPixel * bytesPerPixel) piece.size

def whiten? (row start stop : Nat) (pixels : Pixels) : Option Pixels := do
  let first ← word? (start * row)
  let last ← word? (stop * row)
  let piece ← Pixels.slice? pixels first last
  Pixels.overwrite? pixels first last (whitened piece)

def drawBand? (r : BandRenderer) (size : PictureSize) (i : Nat) (pixels : Pixels) :
    Option Pixels := do
  let row ← word? (size.width.toNat * bytesPerPixel)
  let stop := min (r.bandStop i).toNat size.height.toNat
  whiten? row (min (r.bandStart i).toNat stop) stop pixels

def drawFrom? (r : BandRenderer) (size : PictureSize) :
    Nat → List SubtitleLine → Pixels → Option (Attempt SubtitleError Unit × Pixels)
  | _, [], pixels => some (.done (), pixels)
  | i, l :: rest, pixels =>
    if r.refuses l then some (verdict i l, pixels)
    else do
      let pixels ← r.drawBand? size i pixels
      drawFrom? r size (i + 1) rest pixels

theorem whitenedWhole {piece : Pixels} (whole : bytesPerPixel ∣ piece.size) :
    whitened piece = Array.replicate piece.size 255 := by
  have white : Pixels.white = Array.replicate bytesPerPixel 255 := rfl
  rw [whitened, Nat.div_mul_cancel whole, white, Array.flatten_replicate_replicate,
    Nat.div_mul_cancel whole, Array.extract_empty_of_size_le_start (Nat.le_refl _),
    Array.append_empty]

theorem paintClipped (row start stop : Nat) (pixels : Pixels) :
    paint row (min start stop) stop pixels = paint row start stop pixels := by
  refine ((paintWhitens row _ stop pixels).same fun j => ?_).unique (paintWhitens row start stop _)
  rcases Nat.le_total start stop with above | below
  · rw [Nat.min_eq_left above]
  · have order := Nat.mul_le_mul_right row below
    rw [Nat.min_eq_right below]
    omega

theorem whitenChecked {row start stop : Nat} (pixel : bytesPerPixel ∣ row) (order : start ≤ stop)
    (room : stop * row ≤ pixels.size) (small : pixels.size < UInt64.size) :
    whiten? row start stop pixels = some (paint row start stop pixels) := by
  have order : start * row ≤ stop * row := Nat.mul_le_mul_right row order
  have fits {n : Nat} (low : n ≤ pixels.size) : word? n = some n :=
    if_pos (Nat.lt_of_le_of_lt low small)
  have length : (pixels.extract (start * row) (stop * row)).size = stop * row - start * row := by
    rw [Array.size_extract, Nat.min_eq_left room]
  have pieces : bytesPerPixel ∣ (pixels.extract (start * row) (stop * row)).size := by
    rw [length, ← Nat.sub_mul]
    exact Nat.dvd_mul_left_of_dvd pixel _
  rw [whiten?, fits (order.trans room), fits room, Option.bind_eq_bind, Option.bind_some,
    Option.bind_eq_bind, Option.bind_some, Pixels.slice?, if_pos ⟨order, room⟩,
    Option.bind_some, whitenedWhole pieces, length, Pixels.overwrite?,
    if_pos ⟨order, room, Array.size_replicate⟩,
    (Pixels.splicedWhitens order room).unique (paintWhitens row start stop pixels)]

theorem drawBandChecked (r : BandRenderer) (size : PictureSize) (i : Nat)
    (full : pixels.size = size.bytes) (small : pixels.size < UInt64.size) :
    r.drawBand? size i pixels = some (r.drawBand size i pixels) := by
  have narrow : size.width.toNat * bytesPerPixel < 2 ^ 63 := by
    have width := size.width.toNat_lt
    unfold bytesPerPixel
    omega
  have room : min (r.bandStop i).toNat size.height.toNat * (size.width.toNat * bytesPerPixel) ≤
      pixels.size := by
    calc min (r.bandStop i).toNat size.height.toNat * (size.width.toNat * bytesPerPixel)
        ≤ size.height.toNat * (size.width.toNat * bytesPerPixel) :=
          Nat.mul_le_mul_right _ (Nat.min_le_right ..)
      _ = pixels.size := by rw [full, PictureSize.bytes]; ring
  rw [drawBand?, Picture.wordFits narrow, drawBand, ← paintClipped]
  exact whitenChecked (Nat.dvd_mul_left ..) (Nat.min_le_right ..) room small

theorem drawFromChecked (r : BandRenderer) (size : PictureSize) (i : Nat)
    (lines : List SubtitleLine) (full : pixels.size = size.bytes)
    (small : pixels.size < UInt64.size) :
    r.drawFrom? size i lines pixels = some (r.drawFrom size i lines pixels) := by
  induction lines generalizing i pixels with
  | nil => rfl
  | cons l rest ih =>
    rw [drawFrom?, drawFrom, drawBandChecked r size i full small]
    have kept : (r.drawBand size i pixels).size = pixels.size := Array.size_mapIdx
    split
    · rfl
    · exact ih (i + 1) (kept.trans full) (kept ▸ small)

structure Paints (r : BandRenderer) (b : Buffer) (lines : List SubtitleLine) (k : Nat)
    (d : Drawing BandRenderer) : Prop where
  result : d.result = verdict k lines[k]?
  white : ∀ x y, x < b.size.width.toNat → y < min b.size.height.toNat (r.height.toNat * k) →
    d.pixels.extract ((y * b.size.width.toNat + x) * 4) ((y * b.size.width.toNat + x) * 4 + 4) =
      Pixels.white
  rest : ∀ j, min b.size.height.toNat (r.height.toNat * k) * (b.size.width.toNat * 4) ≤ j →
    d.pixels[j]? = b.data[j]?
  renderer : d.renderer = r
  checked : b.data.size < UInt64.size →
    r.drawFrom? b.size 0 lines b.data = some (d.result, d.pixels)

theorem placeInRows {x y w c rows : Nat} (right : x < w) (byte : c < 4) (low : y < rows) :
    (y * w + x) * 4 + c < rows * (w * 4) := by
  calc (y * w + x) * 4 + c < (y * w + w) * 4 := by omega
    _ = (y + 1) * (w * 4) := by ring
    _ ≤ rows * (w * 4) := Nat.mul_le_mul_right _ low

theorem bandsPainted (r : BandRenderer) (b : Buffer) (full : b.data.size = b.size.bytes)
    (t : Int64) (lines : List SubtitleLine) :
    ∃ k, r.Drawn lines k ∧ r.Paints b lines k (SubtitleRenderer.render b t lines r) := by
  obtain ⟨k, drawn, result, whitens⟩ := r.drawFromWhitens b.size 0 lines b.data
  simp only [Nat.zero_add] at result whitens
  have whitens := whitens.same (r.bandsReach b.size k)
  refine ⟨k, drawn, result, fun x y right low => Pixels.whitePixel fun c byte => ?_,
    fun j below => (whitens j).2 (Nat.not_lt.mpr below), rfl,
    fun small => r.drawFromChecked b.size 0 lines full small⟩
  have inside : (y * b.size.width.toNat + x) * 4 + c < b.data.size := by
    calc (y * b.size.width.toNat + x) * 4 + c
        < b.size.height.toNat * (b.size.width.toNat * 4) :=
          placeInRows right byte (Nat.lt_of_lt_of_le low (Nat.min_le_left ..))
      _ = b.data.size := by rw [full, PictureSize.bytes, bytesPerPixel]; ring
  refine ((whitens _).1 (placeInRows right byte low)).trans ?_
  rw [Array.getElem?_eq_getElem inside]
  rfl

theorem bandsPaintedToMarker :
    let b : Buffer := ⟨⟨1, 3⟩, Array.replicate 12 7⟩
    let r : BandRenderer := ⟨2, some "!"⟩
    let lines : List SubtitleLine := [.dialogue 0 100 "quiet", .dialogue 0 100 "loud!"]
    b.data.size = b.size.bytes ∧
      r.Drawn lines 1 ∧ r.Paints b lines 1 (SubtitleRenderer.render b 50 lines r) := by
  intro b r lines
  obtain ⟨k, drawn, paints⟩ := bandsPainted r b (by decide) 50 lines
  have quiet : ¬r.Marked (.dialogue 0 100 "quiet") := refusesIff.not.mp (by decide)
  have loud : r.Marked (.dialogue 0 100 "loud!") := refusesIff.mp (by decide)
  have one : k = 1 := by
    match k, drawn with
    | 0, ⟨_, next⟩ => simp [lines, quiet] at next
    | 1, _ => rfl
    | _ + 2, ⟨plain, _⟩ => exact absurd loud (plain _ (by simp [lines]))
  exact ⟨by decide, one ▸ drawn, one ▸ paints⟩

end BandRenderer
end VideoPreview
