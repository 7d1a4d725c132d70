import SessionRecorder.Msgpack.Reader

/-!
A reader that succeeds has not looked behind what it took: octets that follow are left
over as they are. Main statement: `local_read`.
-/

namespace SessionRecorder.Msgpack

open Bytes

variable {α β : Type}

/-- What a reader takes does not depend on the octets that follow. -/
def Local (read : Bytes → Except ReadError (α × Bytes)) : Prop :=
  ∀ bs x rest, read bs = .ok (x, rest) → ∀ more, read (bs ++ more) = .ok (x, rest ++ more)

theorem local_ok (x : α) : Local fun bs => .ok (x, bs) := by
  rintro bs _ _ ⟨⟩ more
  rfl

theorem local_error (e : ReadError) : Local fun _ => (.error e : Except ReadError (α × Bytes)) := by
  intro bs x rest h
  cases h

/-- One reader after another. -/
theorem Local.bind {first : Bytes → Except ReadError (α × Bytes)}
    {next : α → Bytes → Except ReadError (β × Bytes)} (hfirst : Local first)
    (hnext : ∀ x, Local (next x)) :
    Local (fun bs => do
      let (x, rest) ← first bs
      next x rest) := by
  intro bs y rest h more
  rcases hread : first bs with e | ⟨x, behind⟩
  · simp only [hread] at h
    cases h
  · simp only [hread] at h
    simp only [hfirst bs x behind hread more]
    exact hnext x behind y rest h more

/-- A reader behind a check that does not depend on the octets. -/
theorem Local.guarded {read : Bytes → Except ReadError (α × Bytes)} (h : Local read)
    (p : Prop) [Decidable p] (e : ReadError) :
    Local fun bs => if p then .error e else read bs := by
  by_cases hp : p
  · simp only [hp, ↓reduceIte]
    exact local_error e
  · simp only [hp, ↓reduceIte]
    exact h

theorem split?_append_of_some {n : Nat} {bs front rest : Bytes}
    (h : split? n bs = some (front, rest)) (more : Bytes) :
    split? n (bs ++ more) = some (front, rest ++ more) := by
  obtain ⟨rfl, rfl⟩ := split?_eq_some_iff.1 h
  rw [List.append_assoc, split?_append]

theorem local_readField (width : Nat) : Local (readField width) := by
  intro bs n rest h more
  unfold readField at h ⊢
  cases hsplit : split? width bs with
  | none =>
    rw [hsplit] at h
    cases h
  | some taken =>
    rw [hsplit] at h
    cases h
    rw [split?_append_of_some hsplit more]

theorem local_readBody (length : Nat) : Local (readBody length) := by
  intro bs body rest h more
  unfold readBody at h ⊢
  cases hsplit : split? length bs with
  | none =>
    rw [hsplit] at h
    cases h
  | some taken =>
    rw [hsplit] at h
    cases h
    rw [split?_append_of_some hsplit more]

theorem local_readStr (budget length : Nat) : Local (readStr budget length) :=
  ((local_readBody length).bind fun bytes => local_ok (ofStrBytes bytes)).guarded
    (budget < 2) .depth

theorem local_readBin (budget length : Nat) : Local (readBin budget length) :=
  ((local_readBody length).bind fun bytes => local_ok (Msgpack.bin bytes)).guarded
    (budget < 1) .depth

theorem local_readExt (budget length : Nat) : Local (readExt budget length) := by
  have hbody (type : Nat) :=
    ((local_readBody length).bind fun bytes =>
      local_ok (Msgpack.ext (UInt8.ofNat type).toInt8 bytes)).guarded (budget < 2) .depth
  exact ((local_readField 1).bind hbody).guarded (budget < 1) .depth

theorem local_readMany {read : Bytes → Except ReadError (α × Bytes)} (h : Local read)
    (count : Nat) : Local (readMany read count) := by
  induction count with
  | zero => exact local_ok []
  | succ count ih => exact h.bind fun x => ih.bind fun xs => local_ok (x :: xs)

section

variable {inner : Bytes → Except ReadError (Msgpack × Bytes)} (h : Local inner)

include h

theorem local_readEntry : Local (readEntry inner) :=
  h.bind fun key => h.bind fun value => local_ok (key, value)

theorem local_readItems (budget length : Nat) : Local (readItems inner budget length) :=
  ((local_readMany h length).bind fun items => local_ok (Msgpack.array items)).guarded
    (budget < 1) .depth

theorem local_readEntries (budget length : Nat) : Local (readEntries inner budget length) :=
  ((local_readMany (local_readEntry h) length).bind fun entries =>
    local_ok (Msgpack.map entries)).guarded (budget < 1) .depth

theorem local_readMarked (budget : Nat) (m : Marker) :
    Local fun bs => readMarked inner budget bs m := by
  cases m with
  | nil => exact local_ok Msgpack.nil
  | bool b => exact local_ok (Msgpack.bool b)
  | fixInt n => exact local_ok (ofInt n)
  | uint width => exact (local_readField width).bind fun n => local_ok (ofInt n)
  | sint width => exact (local_readField width).bind fun n => local_ok (ofInt (signed width n))
  | float32 => exact (local_readField 4).bind fun n => local_ok (Msgpack.float32 ⟨.ofNat n⟩)
  | float64 => exact (local_readField 8).bind fun n => local_ok (Msgpack.float64 ⟨.ofNat n⟩)
  | fixStr length => exact local_readStr budget length
  | str width => exact (local_readField width).bind (local_readStr budget)
  | bin width => exact (local_readField width).bind (local_readBin budget)
  | fixArray length => exact local_readItems h budget length
  | array width => exact (local_readField width).bind (local_readItems h budget)
  | fixMap length => exact local_readEntries h budget length
  | map width => exact (local_readField width).bind (local_readEntries h budget)
  | fixExt length => exact local_readExt budget length
  | ext width => exact (local_readField width).bind (local_readExt budget)

end

/-- What is read as a value does not depend on the octets that follow it. -/
theorem local_read : ∀ budget, Local (read budget)
  | 0, _, _, _, h => by cases h
  | _ + 1, [], _, _, h => by cases h
  | 1, b :: bs, v, rest, h =>
    local_readMarked (local_error .depth) 0 (Marker.ofByte b) bs v rest h
  | inside + 2, b :: bs, v, rest, h =>
    local_readMarked (local_read inside) (inside + 1) (Marker.ofByte b) bs v rest h

end SessionRecorder.Msgpack
