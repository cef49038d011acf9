import MemoryRepair.Proofs.RingItems

/-!
Reading a page by places. The committed bytes stay as they are and a place in them moves
on; every sum of places and lengths is computed in 64 bits and checked. What stands at a
place does not depend on the time, so a page is a list of marks, and the time is what these
add up to. On every page all the sums of places fit.
-/
namespace MemoryRepair

/-- A piece of what follows a place is a piece of the whole. -/
theorem Bytes.slice_drop {data : Bytes} {place start len : Nat}
    (h : place + start ≤ data.length ∨ 0 < len) :
    Bytes.slice (data.drop place) start len = data.slice (place + start) len := by
  refine Option.ext fun piece => ?_
  rw [slice_eq_some_iff, slice_eq_some_iff, List.length_drop, List.drop_drop]
  refine and_congr_left fun _ => ?_
  omega

namespace Trace

open Cursor

/-- What an item does to the time, and the data that it carries. -/
inductive Mark
  | record (delta : UInt64) (data : Bytes)
  | extend (more : UInt64)
  | stamp (time : UInt64)
  | padding
  deriving DecidableEq, Repr

namespace Mark

def data? : Mark → Option Bytes
  | record _ data => some data
  | _ => none

/-- The time after a mark, in its 64 bits. -/
def later (time : UInt64) : Mark → Except Overflow UInt64
  | record delta _ => Word64.add time delta
  | extend more => Word64.add time more
  | stamp time => .ok time
  | padding => .ok time

end Mark

/-- What stands at a place: a mark with the place after it, or nothing more to read, with
the place where the reading rests. -/
inductive Found
  | mark (mark : Mark) (after : UInt64)
  | ending (place : UInt64)
  deriving DecidableEq, Repr

/-- The word at a place, whose end is computed first. -/
def wordAt (data : Bytes) (place : UInt64) : Except Overflow (Option UInt32) := do
  let _ ← Word64.add place 4
  pure (LittleEndian.word32At data place.toNat)

/-- The record whose data start at a place. -/
def recordAt (data : Bytes) (here : UInt64) (delta : Nat) (start len : UInt64) :
    Except Overflow Found := do
  let stop ← Word64.add start len
  match data.slice start.toNat len.toNat with
  | none => pure (.ending here)
  | some piece => pure (.mark (.record (UInt64.ofNat delta) piece) stop)

/-- An item with a word behind its header, whose body starts at a place. -/
def wordedAt (data : Bytes) (here body : UInt64) (kind delta : Nat) (word : UInt32) :
    Except Overflow Found := do
  if kind = kindPadding then
    let after ← Word64.add body (UInt64.ofNat word.toNat)
    pure (.mark .padding after)
  else if kind = kindExtend then
    let more ← Word64.add (UInt64.ofNat (word.toNat * deltaLimit)) (UInt64.ofNat delta)
    let after ← Word64.add body 4
    pure (.mark (.extend more) after)
  else if kind = kindStamp then
    let time ← Word64.add (UInt64.ofNat (word.toNat * deltaLimit)) (UInt64.ofNat delta)
    let after ← Word64.add body 4
    pure (.mark (.stamp time) after)
  else if word.toNat < 4 then pure (.ending here)
  else
    let padded ← Word64.add (UInt64.ofNat (word.toNat - 4)) 3
    let start ← Word64.add body 4
    recordAt data here delta start (padded / 4 * 4)

/-- What stands at a place. -/
def markAt (data : Bytes) (place : UInt64) : Except Overflow Found := do
  match ← wordAt data place with
  | none => pure (.ending place)
  | some header =>
    let kind := header.toNat % 32
    let delta := header.toNat / 32
    let body ← Word64.add place 4
    if kind = kindPadding ∧ delta = 0 then pure (.ending (UInt64.ofNat data.length))
    else if 0 < kind ∧ kind < kindPadding then
      recordAt data place delta body (UInt64.ofNat (4 * kind))
    else
      match ← wordAt data body with
      | none => pure (.ending place)
      | some word => wordedAt data place body kind delta word

/-- What a cursor makes of what stands at its place. -/
def Found.step (data : Bytes) (time : UInt64) : Found → Except Overflow Cursor.Step
  | .ending place => .ok (.stop ⟨time, data.drop place.toNat⟩)
  | .mark standing after => (standing.later time).map fun later =>
    match standing.data? with
    | some piece => .record ⟨later, piece⟩ ⟨later, data.drop after.toNat⟩
    | none => .skip ⟨later, data.drop after.toNat⟩

/-- A place for which every sum fits. It may lie behind the data, by as much as a word of 32
bits can say. -/
structure Near (data : Bytes) (place : UInt64) : Prop where
  committed : data.length < Cursor.deltaLimit
  within : place.toNat ≤ data.length + UInt32.size

/-- What is found at a place is what the cursor makes of it, whatever the time. A mark takes
its header with it, and the place after it is near again. -/
structure Found.Agrees (data : Bytes) (place : UInt64)
    (steps : UInt64 → Except Overflow Cursor.Step) (found : Found) : Prop where
  step_eq : ∀ time, found.step data time = steps time
  bounds : ∀ standing after, found = .mark standing after → place.toNat + 4 ≤ data.length ∧
    place.toNat + 4 ≤ after.toNat ∧ after.toNat ≤ data.length + UInt32.size

section Agrees

variable {data : Bytes} {place after : UInt64} {standing : Mark}
  {steps : UInt64 → Except Overflow Cursor.Step}

theorem Found.Agrees.of_ending (h : ∀ time, (Found.ending after).step data time = steps time) :
    (Found.ending after).Agrees data place steps :=
  ⟨h, nofun⟩

theorem Found.Agrees.of_mark (h : ∀ time, (Found.mark standing after).step data time = steps time)
    (hheader : place.toNat + 4 ≤ data.length) (hafter : place.toNat + 4 ≤ after.toNat)
    (hwithin : after.toNat ≤ data.length + UInt32.size) :
    (Found.mark standing after).Agrees data place steps := by
  refine ⟨h, ?_⟩
  rintro _ _ ⟨⟩
  exact ⟨hheader, hafter, hwithin⟩

end Agrees

section Sums

variable {data : Bytes} {place : UInt64}

theorem toNat_add_of_lt {a b : UInt64} (h : a.toNat + b.toNat < UInt64.size) :
    (a + b).toNat = a.toNat + b.toNat :=
  Word64.toNat_of_add_eq_ok (Word64.add_eq_ok a b h)

theorem Near.add_four (h : Near data place) : place.toNat + (4 : UInt64).toNat < UInt64.size := by
  have hcommitted := h.committed
  have hwithin := h.within
  simp only [Cursor.deltaLimit, UInt32.size, UInt64.size, UInt64.reduceToNat] at *
  omega

theorem wordAt_eq (h : Near data place) :
    wordAt data place = .ok (LittleEndian.word32At (data.drop place.toNat) 0) := by
  rw [wordAt, Word64.add_eq_ok _ _ h.add_four, LittleEndian.word32At, LittleEndian.word32At,
    Bytes.slice_drop (Or.inr (by decide))]
  rfl

theorem recordAt_agrees {start len : UInt64} (delta : Nat)
    (hfits : start.toNat + len.toNat < UInt64.size) (hheader : place.toNat + 4 ≤ start.toNat)
    (hstart : start.toNat ≤ data.length) :
    ∃ found, recordAt data place delta start len = .ok found ∧
      found.Agrees data place fun time => Cursor.deliver ⟨time, data.drop place.toNat⟩ delta
        (data.drop start.toNat) len.toNat := by
  have hslice : Bytes.slice (data.drop start.toNat) 0 len.toNat =
      data.slice start.toNat len.toNat := Bytes.slice_drop (Or.inl hstart)
  have hstop := toNat_add_of_lt hfits
  simp only [recordAt, Word64.add_eq_ok _ _ hfits, Cursor.deliver, hslice]
  cases hpiece : data.slice start.toNat len.toNat with
  | none => exact ⟨.ending place, rfl, .of_ending fun _ => rfl⟩
  | some piece =>
    have hwithin := (Bytes.slice_eq_some_iff.mp hpiece).1
    refine ⟨.mark (.record (UInt64.ofNat delta) piece) (start + len), rfl,
      .of_mark (fun time => ?_) ?_ ?_ ?_⟩
    · simp only [Found.step, Mark.later, Mark.data?, List.drop_drop, hstop]
    all_goals omega

/-- The two parts of a long time fit together. -/
theorem add_extension (word : UInt32) {delta : Nat} (hdelta : delta < Cursor.deltaLimit) :
    Word64.add (UInt64.ofNat (word.toNat * Cursor.deltaLimit)) (UInt64.ofNat delta) =
      .ok (UInt64.ofNat (word.toNat * Cursor.deltaLimit + delta)) := by
  have hword := word.toNat_lt
  simp only [Cursor.deltaLimit] at hdelta ⊢
  have hhigh : (UInt64.ofNat (word.toNat * 0x8000000)).toNat = word.toNat * 0x8000000 :=
    UInt64.toNat_ofNat_of_lt' (by simp only [UInt64.size]; omega)
  have hfits : (UInt64.ofNat (word.toNat * 0x8000000)).toNat + delta < UInt64.size := by
    rw [hhigh]
    simp only [UInt64.size]
    omega
  rw [Cursor.add_ofNat hfits, hhigh]

/-- The padded length of a long record, computed in a word. -/
theorem padded_length {word : UInt32} (h : 4 ≤ word.toNat) :
    ∃ padded, Word64.add (UInt64.ofNat (word.toNat - 4)) 3 = .ok padded ∧
      (padded / 4 * 4).toNat = (word.toNat - 4 + 3) / 4 * 4 := by
  have hword := word.toNat_lt
  have hlength : (UInt64.ofNat (word.toNat - 4)).toNat = word.toNat - 4 :=
    UInt64.toNat_ofNat_of_lt' (by simp only [UInt64.size]; omega)
  have hfits : (UInt64.ofNat (word.toNat - 4)).toNat + (3 : UInt64).toNat < UInt64.size := by
    simp only [hlength, UInt64.reduceToNat, UInt64.size]
    omega
  refine ⟨_, Word64.add_eq_ok _ _ hfits, ?_⟩
  have hsum : (UInt64.ofNat (word.toNat - 4) + 3).toNat = word.toNat - 4 + 3 := by
    rw [toNat_add_of_lt hfits, hlength]
    rfl
  rw [UInt64.toNat_mul, UInt64.toNat_div, hsum]
  simp only [UInt64.reduceToNat]
  omega

end Sums

/-- A cursor at an item with a word behind its header. -/
def Cursor.stepWorded (cursor : Cursor) (kind delta : Nat) (body : Bytes) (word : UInt32) :
    Except Overflow Step :=
  if kind = kindPadding then .ok (.skip ⟨cursor.timestamp, body.drop word.toNat⟩)
  else if kind = kindExtend then
    (Word64.add cursor.timestamp (UInt64.ofNat (word.toNat * deltaLimit + delta))).map
      fun timestamp => .skip ⟨timestamp, body.drop 4⟩
  else if kind = kindStamp then
    .ok (.skip ⟨UInt64.ofNat (word.toNat * deltaLimit + delta), body.drop 4⟩)
  else if word.toNat < 4 then .ok (.stop cursor)
  else deliver cursor delta (body.drop 4) ((word.toNat - 4 + 3) / 4 * 4)

theorem Cursor.step_of_header (cursor : Cursor) {header : UInt32}
    (h : LittleEndian.word32At cursor.rest 0 = some header) :
    step cursor =
      if header.toNat % 32 = kindPadding ∧ header.toNat / 32 = 0 then
        .ok (.stop ⟨cursor.timestamp, []⟩)
      else if 0 < header.toNat % 32 ∧ header.toNat % 32 < kindPadding then
        deliver cursor (header.toNat / 32) (cursor.rest.drop 4) (4 * (header.toNat % 32))
      else
        match LittleEndian.word32At (cursor.rest.drop 4) 0 with
        | none => .ok (.stop cursor)
        | some word =>
          cursor.stepWorded (header.toNat % 32) (header.toNat / 32) (cursor.rest.drop 4) word := by
  unfold step
  simp only [h]
  rfl

section Places

variable {data : Bytes} {place body : UInt64}

/-- The body of an item stands behind its header, and a word of it is in the data. -/
structure Body (data : Bytes) (place body : UInt64) : Prop where
  near : Near data place
  after_header : body.toNat = place.toNat + 4
  words : body.toNat + 4 ≤ data.length

theorem Body.fits_word (h : Body data place body) (word : UInt32) :
    body.toNat + (UInt64.ofNat word.toNat).toNat < UInt64.size := by
  have hcommitted := h.near.committed
  have hwords := h.words
  have hword := word.toNat_lt
  rw [UInt64.toNat_ofNat_of_lt' (by simp only [UInt64.size]; omega)]
  simp only [deltaLimit, UInt64.size] at hcommitted ⊢
  omega

theorem padding_agrees (h : Body data place body) (word : UInt32) :
    ∃ after, Word64.add body (UInt64.ofNat word.toNat) = .ok after ∧
      (Found.mark .padding after).Agrees data place fun time =>
        .ok (.skip ⟨time, (data.drop body.toNat).drop word.toNat⟩) := by
  have hwords := h.words
  have hheader := h.after_header
  have hword := word.toNat_lt
  have hafter : (body + UInt64.ofNat word.toNat).toNat = body.toNat + word.toNat := by
    rw [toNat_add_of_lt (h.fits_word word),
      UInt64.toNat_ofNat_of_lt' (by simp only [UInt64.size]; omega)]
  refine ⟨body + UInt64.ofNat word.toNat, Word64.add_eq_ok _ _ (h.fits_word word),
    .of_mark (fun time => ?_) ?_ ?_ ?_⟩
  · rw [List.drop_drop, ← hafter]
    rfl
  · omega
  · omega
  · simp only [UInt32.size]
    omega

theorem Body.toNat_add_four (h : Body data place body) :
    Word64.add body 4 = .ok (body + 4) ∧ (body + 4).toNat = body.toNat + 4 := by
  have hfits := h.fits_word 4
  exact ⟨Word64.add_eq_ok _ _ hfits, toNat_add_of_lt hfits⟩

/-- A mark of the time takes its word with it. -/
theorem timed_agrees (h : Body data place body) (standing : Mark)
    (hdata : standing.data? = none) :
    (Found.mark standing (body + 4)).Agrees data place fun time =>
      (standing.later time).map fun later => .skip ⟨later, (data.drop body.toNat).drop 4⟩ := by
  have hafter := h.toNat_add_four.2
  have hwords := h.words
  have hheader := h.after_header
  refine .of_mark (fun time => ?_) ?_ ?_ ?_
  · simp only [Found.step, hdata, List.drop_drop, hafter]
  all_goals omega

/-- A record whose length stands in a word. -/
theorem long_agrees (h : Body data place body) (delta : Nat) {word : UInt32}
    (hlong : 4 ≤ word.toNat) :
    ∃ padded, Word64.add (UInt64.ofNat (word.toNat - 4)) 3 = .ok padded ∧
      ∃ found, recordAt data place delta (body + 4) (padded / 4 * 4) = .ok found ∧
        found.Agrees data place fun time => deliver ⟨time, data.drop place.toNat⟩ delta
          ((data.drop body.toNat).drop 4) ((word.toNat - 4 + 3) / 4 * 4) := by
  obtain ⟨padded, hpadded, hlength⟩ := padded_length hlong
  have hstart := h.toNat_add_four.2
  have hwords := h.words
  have hheader : place.toNat + 4 ≤ (body + 4).toNat := by
    have hbody := h.after_header
    omega
  have hfits : (body + 4).toNat + (padded / 4 * 4).toNat < UInt64.size := by
    have hcommitted := h.near.committed
    have hword := word.toNat_lt
    simp only [hstart, hlength, deltaLimit, UInt64.size] at hcommitted ⊢
    omega
  obtain ⟨found, hfound, hagrees⟩ := recordAt_agrees delta hfits hheader (hstart ▸ hwords)
  refine ⟨padded, hpadded, found, hfound, ?_⟩
  rwa [hlength, hstart, ← List.drop_drop] at hagrees

theorem wordedAt_agrees (h : Body data place body) (kind : Nat) {delta : Nat}
    (hdelta : delta < deltaLimit) (word : UInt32) :
    ∃ found, wordedAt data place body kind delta word = .ok found ∧
      found.Agrees data place fun time =>
        Cursor.stepWorded ⟨time, data.drop place.toNat⟩ kind delta (data.drop body.toNat) word := by
  have hfour := h.toNat_add_four.1
  unfold wordedAt Cursor.stepWorded
  by_cases hpadding : kind = kindPadding
  · obtain ⟨after, hafter, hagrees⟩ := padding_agrees h word
    simp only [if_pos hpadding, hafter]
    exact ⟨_, rfl, hagrees⟩
  by_cases hextend : kind = kindExtend
  · simp only [if_neg hpadding, if_pos hextend, add_extension word hdelta, hfour]
    exact ⟨_, rfl, timed_agrees h (.extend (UInt64.ofNat (word.toNat * deltaLimit + delta))) rfl⟩
  by_cases hstamp : kind = kindStamp
  · simp only [if_neg hpadding, if_neg hextend, if_pos hstamp, add_extension word hdelta, hfour]
    exact ⟨_, rfl, timed_agrees h (.stamp (UInt64.ofNat (word.toNat * deltaLimit + delta))) rfl⟩
  by_cases hshort : word.toNat < 4
  · simp only [if_neg hpadding, if_neg hextend, if_neg hstamp, if_pos hshort]
    exact ⟨.ending place, rfl, .of_ending fun _ => rfl⟩
  · obtain ⟨padded, hpadded, found, hfound, hagrees⟩ :=
      long_agrees h delta (Nat.le_of_not_lt hshort)
    simp only [if_neg hpadding, if_neg hextend, if_neg hstamp, if_neg hshort, hpadded, hfour]
    exact ⟨found, hfound, hagrees⟩

theorem markAt_of_header (h : Near data place) {header : UInt32}
    (hheader : LittleEndian.word32At (data.drop place.toNat) 0 = some header) :
    markAt data place =
      if header.toNat % 32 = kindPadding ∧ header.toNat / 32 = 0 then
        .ok (.ending (UInt64.ofNat data.length))
      else if 0 < header.toNat % 32 ∧ header.toNat % 32 < kindPadding then
        recordAt data place (header.toNat / 32) (place + 4)
          (UInt64.ofNat (4 * (header.toNat % 32)))
      else
        wordAt data (place + 4) >>= fun
          | none => .ok (.ending place)
          | some word =>
            wordedAt data place (place + 4) (header.toNat % 32) (header.toNat / 32) word := by
  unfold markAt
  rw [wordAt_eq h, hheader, Word64.add_eq_ok _ _ h.add_four]
  rfl

/-- Near the data every sum fits, and what is found is what the cursor makes of the place. -/
theorem markAt_agrees (h : Near data place) :
    ∃ found, markAt data place = .ok found ∧
      found.Agrees data place fun time => step ⟨time, data.drop place.toNat⟩ := by
  have hbody : (place + 4).toNat = place.toNat + 4 := toNat_add_of_lt h.add_four
  cases hheader : LittleEndian.word32At (data.drop place.toNat) 0 with
  | none =>
    refine ⟨.ending place, ?_, .of_ending fun time => ?_⟩
    · rw [markAt, wordAt_eq h, hheader]
      rfl
    · unfold step
      simp only [hheader]
      rfl
  | some header =>
    have hlength : place.toNat + 4 ≤ data.length := by
      have hfour := length_lt_of_word32At hheader
      rw [List.length_drop] at hfour
      omega
    have hstep : ∀ time, step ⟨time, data.drop place.toNat⟩ = _ := fun time =>
      Cursor.step_of_header ⟨time, data.drop place.toNat⟩ hheader
    simp only [List.drop_drop, ← hbody] at hstep
    rw [markAt_of_header h hheader]
    simp only [hstep]
    by_cases hnull : header.toNat % 32 = kindPadding ∧ header.toNat / 32 = 0
    · simp only [if_pos hnull]
      refine ⟨.ending (UInt64.ofNat data.length), rfl, .of_ending fun time => ?_⟩
      have hend : (UInt64.ofNat data.length).toNat = data.length :=
        UInt64.toNat_ofNat_of_lt' (Nat.lt_trans h.committed (by decide))
      rw [Found.step, hend, List.drop_length]
    simp only [if_neg hnull]
    by_cases hshort : 0 < header.toNat % 32 ∧ header.toNat % 32 < kindPadding
    · simp only [if_pos hshort]
      have hlen : (UInt64.ofNat (4 * (header.toNat % 32))).toNat = 4 * (header.toNat % 32) :=
        UInt64.toNat_ofNat_of_lt' (by simp only [UInt64.size]; omega)
      have hfits : (place + 4).toNat + (UInt64.ofNat (4 * (header.toNat % 32))).toNat <
          UInt64.size := by
        have hcommitted := h.committed
        simp only [hlen, hbody, deltaLimit, UInt64.size] at hcommitted ⊢
        omega
      obtain ⟨found, hfound, hagrees⟩ := recordAt_agrees (header.toNat / 32) hfits
        (Nat.le_of_eq hbody.symm) (hbody ▸ hlength)
      rw [hlen] at hagrees
      exact ⟨found, hfound, hagrees⟩
    simp only [if_neg hshort]
    have hnear : Near data (place + 4) := ⟨h.committed, by omega⟩
    rw [wordAt_eq hnear]
    cases hword : LittleEndian.word32At (data.drop (place + 4).toNat) 0 with
    | none => exact ⟨.ending place, rfl, .of_ending fun _ => rfl⟩
    | some word =>
      have hwords : (place + 4).toNat + 4 ≤ data.length := by
        have hfour := length_lt_of_word32At hword
        rw [List.length_drop] at hfour
        omega
      have hdelta : header.toNat / 32 < deltaLimit := by
        have hlt := header.toNat_lt
        simp only [deltaLimit]
        omega
      exact wordedAt_agrees ⟨h, hbody, hwords⟩ (header.toNat % 32) hdelta word

end Places

end Trace

end MemoryRepair
