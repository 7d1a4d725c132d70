import Mathlib.Algebra.Order.Floor.Semifield
import Mathlib.Data.Rat.Floor
import SessionRecorder.Proofs.Msgpack.JsonImage
import SessionRecorder.Turn.Accumulator

/-!
What becomes of the usage that a response reports. Each count is read by itself from whatever
stands in its place (`Counts`). Only the details of the completion must have a shape of their own:
where they are a number, a text, a truth value or a longer list, the whole usage is lost
(`scalar_details_lose_usage`). Main statement: `usage_kept_where_details_fit`.
-/

namespace SessionRecorder

/-! ## Sums -/

/-- The greatest count. -/
def topCount : Nat := 18446744073709551615

theorem toNat_ofNat_min (n : Nat) : (UInt64.ofNat (min n topCount)).toNat = min n topCount := by
  have hle : min n topCount ≤ topCount := Nat.min_le_right ..
  unfold topCount at hle ⊢
  rw [UInt64.toNat_ofNat']
  omega

theorem toNat_addCounts (a b : UInt64) :
    (addCounts a b).toNat = min (a.toNat + b.toNat) topCount :=
  toNat_ofNat_min _

/-! ## Single counts -/

theorem Decimal.boundedNat?_le {max n : Nat} {s : String} (h : boundedNat? max s = some n) :
    n ≤ max := by
  have hread : ∃ m, (if m ≤ max then some m else none) = some n := by
    simp only [boundedNat?] at h
    split at h <;> exact (Option.bind_eq_some_iff.1 h).imp fun _ hm => hm.2
  obtain ⟨m, hm⟩ := hread
  obtain ⟨hle, rfl⟩ : m ≤ max ∧ m = n := by simpa using hm
  exact hle

/-- What stands in the place of a count, if anything does, and the count that it is read as. -/
inductive Counts : Option Json → Nat → Prop where
  | missing : Counts none 0
  | null : Counts (some .null) 0
  | bool (b : Bool) : Counts (some (.bool b)) 0
  | array (items : List Json) : Counts (some (.array items)) 0
  | object (members : List (String × Json)) : Counts (some (.object members)) 0
  | negative {n : WordInt} (h : n.val < 0) : Counts (some (.int n)) 0
  | negativeDouble {x : Double} (h : x.isNegative = true) : Counts (some (.double x)) 0
  | noNumeral {s : String} (h : Decimal.boundedNat? topCount (Text.trim s) = none) :
      Counts (some (.string s)) 0
  | whole {n : WordInt} (h : 0 ≤ n.val) : Counts (some (.int n)) n.val.toNat
  | double {x : Double} {m : Nat} {q : Int} (hx : x.isNegative = false)
      (hm : x.magnitude = .finite m q) :
      Counts (some (.double x)) (min ⌊(m : ℚ) * 2 ^ q⌋₊ topCount)
  | numeral {s : String} {n : Nat} (h : Decimal.boundedNat? topCount (Text.trim s) = some n) :
      Counts (some (.string s)) n

theorem floor_mul_zpow (m : Nat) (q : Int) :
    ⌊(m : ℚ) * 2 ^ q⌋₊ = if 0 ≤ q then m * 2 ^ q.toNat else m / 2 ^ (-q).toNat := by
  split
  · rename_i hq
    obtain ⟨k, rfl⟩ := Int.eq_ofNat_of_zero_le hq
    rw [zpow_natCast, Int.toNat_natCast]
    exact_mod_cast Nat.floor_natCast (R := ℚ) (m * 2 ^ k)
  · rename_i hq
    obtain ⟨k, hk⟩ := Int.eq_ofNat_of_zero_le (a := -q) (by omega)
    obtain rfl : q = -(k : Int) := by omega
    rw [zpow_neg, zpow_natCast, ← div_eq_mul_inv, neg_neg, Int.toNat_natCast]
    exact_mod_cast Nat.floor_div_eq_div (K := ℚ) m (2 ^ k)

theorem counts_int (n : WordInt) : Counts (some (.int n)) (Json.count (.int n)).toNat := by
  simp only [Json.count, WordInt.toUInt64?]
  split
  · rename_i hn
    have hupper := n.upper
    have hval : (UInt64.ofNat n.val.toNat).toNat = n.val.toNat := by
      rw [UInt64.toNat_ofNat']
      omega
    rw [Option.getD_some, hval]
    exact .whole hn
  · rename_i hn
    exact .negative (by omega)

theorem counts_double {x : Double} (hx : x.isFinite = true) :
    Counts (some (.double x)) (Json.count (.double x)).toNat := by
  cases hsign : x.isNegative with
  | true =>
    simp only [Json.count, Double.isPositive, hsign, Bool.not_true, Bool.false_and]
    exact .negativeDouble hsign
  | false =>
    obtain ⟨m, q, hm⟩ : ∃ m q, x.magnitude = .finite m q := by
      simp only [Double.isFinite] at hx
      split at hx
      · exact ⟨_, _, ‹_›⟩
      · cases hx
    have hcount : (Json.count (.double x)).toNat = min ⌊(m : ℚ) * 2 ^ q⌋₊ topCount := by
      rw [floor_mul_zpow]
      by_cases hzero : m = 0
      · simp [Json.count, Double.isPositive, hsign, hm, hzero]
      · have hpositive : x.isPositive = true := by simp [Double.isPositive, hsign, hm, hzero]
        simp only [Json.count, hpositive, Double.toUInt64, hsign, hm]
        exact toNat_ofNat_min _
    rw [hcount]
    exact .double hsign hm

theorem counts_string (s : String) : Counts (some (.string s)) (Json.count (.string s)).toNat := by
  cases hs : Decimal.boundedNat? topCount (Text.trim s) with
  | none =>
    have hcount : Json.count (.string s) = 0 := by
      simp only [Json.count]
      rw [show (18446744073709551615 : Nat) = topCount from rfl, hs]
      rfl
    rw [hcount]
    exact .noNumeral hs
  | some n =>
    have hle : n ≤ topCount := Decimal.boundedNat?_le hs
    have hcount : (Json.count (.string s)).toNat = n := by
      simp only [Json.count]
      rw [show (18446744073709551615 : Nat) = topCount from rfl, hs, Option.getD_some,
        ← Nat.min_eq_left hle, toNat_ofNat_min]
    rw [hcount]
    exact .numeral hs

/-- Every value is read as the count that it holds. -/
theorem counts_count {v : Json} (h : v.WellFormed) : Counts (some v) v.count.toNat := by
  cases v with
  | null => exact .null
  | bool b => exact .bool b
  | int n => exact counts_int n
  | double x => exact counts_double h
  | string s => exact counts_string s
  | array items => exact .array items
  | object members => exact .object members

/-- A place is read as the count of its value, or as zero if nothing stands there. -/
theorem counts_place {place : Option Json} (h : ∀ v ∈ place, v.WellFormed) :
    Counts place ((place.map Json.count).getD 0).toNat := by
  cases place with
  | none => exact .missing
  | some v => exact counts_count (h v rfl)

/-! ## Records read from objects -/

namespace Json

section

variable {σ τ : Type} {fields : List (FieldReader σ)} {members : List (String × Json)}

theorem bind_eq_ok {ε α β : Type} {x : Except ε α} {f : α → Except ε β} {b : β} :
    (x >>= f) = .ok b ↔ ∃ a, x = .ok a ∧ f a = .ok b := by
  cases x <;> simp [bind, Except.bind]

/-- A record after one member of an object. -/
def readMember (fields : List (FieldReader σ)) (key : String) (value : Json) (s : σ) :
    Except DecodeError σ :=
  match fields.find? (·.name == key) with
  | some field => field.read value s
  | none => .ok s

theorem readMembers_cons_ok {key : String} {value : Json} {s t : σ} :
    readMembers fields ((key, value) :: members) s = .ok t ↔
      ∃ mid, readMember fields key value s = .ok mid ∧ readMembers fields members mid = .ok t := by
  simp only [readMembers, readMember]
  cases fields.find? (·.name == key) <;> exact bind_eq_ok

/-- A part of a record that the member of one key decides says what that member says. -/
theorem part_of_readMembers {key : String} (part : σ → τ) {say : Json → τ}
    (hstep : ∀ k v, (k, v) ∈ members → ∀ s s', readMember fields k v s = .ok s' →
      part s' = if k = key then say v else part s)
    (hmembers : Assoc.Ascending members) {s t : σ} (h : readMembers fields members s = .ok t) :
    part t = ((Assoc.find? key members).map say).getD (part s) := by
  induction members generalizing s with
  | nil =>
    cases h
    rfl
  | cons member rest ih =>
    obtain ⟨k, v⟩ := member
    obtain ⟨mid, hread, hrest⟩ := readMembers_cons_ok.1 h
    have hpart := ih (fun k v hm => hstep k v (List.mem_cons_of_mem _ hm))
      (List.pairwise_cons.1 hmembers).2 hrest
    rw [hstep k v (List.mem_cons_self ..) s mid hread] at hpart
    -- The keys ascend, so the key does not come again behind its member.
    by_cases hk : k = key
    · subst hk
      have hno : Assoc.find? k rest = none :=
        Assoc.find?_of_all_lt (List.pairwise_cons.1 hmembers).1
      rw [hpart, hno, Assoc.find?_cons_self]
      simp
    · rw [hpart, Assoc.find?_cons_of_ne (Ne.symm hk), if_neg hk]

/-- Where every member is taken, so is the object. -/
theorem readMembers_succeeds
    (h : ∀ member ∈ members, ∀ s, ∃ s', readMember fields member.1 member.2 s = .ok s') (s : σ) :
    ∃ t, readMembers fields members s = .ok t := by
  induction members generalizing s with
  | nil => exact ⟨s, rfl⟩
  | cons member rest ih =>
    obtain ⟨k, v⟩ := member
    obtain ⟨mid, hread⟩ := h (k, v) (List.mem_cons_self ..) s
    obtain ⟨t, hrest⟩ := ih (fun m hm => h m (List.mem_cons_of_mem _ hm)) mid
    exact ⟨t, readMembers_cons_ok.2 ⟨mid, hread, hrest⟩⟩

/-- One member that no field takes is enough for no record to be read. -/
theorem readMembers_fails {member : String × Json} (hmember : member ∈ members)
    (h : ∀ s s', readMember fields member.1 member.2 s ≠ .ok s') (s t : σ) :
    readMembers fields members s ≠ .ok t := by
  induction members generalizing s with
  | nil => cases hmember
  | cons first rest ih =>
    intro hall
    obtain ⟨mid, hread, hrest⟩ := readMembers_cons_ok.1 hall
    rcases List.mem_cons.1 hmember with rfl | hmember
    · exact h s mid hread
    · exact ih hmember mid hrest

end

end Json

namespace Usage

open Json

/-! ## The details of the completion -/

/-- Whether a value can be the details of a completion. -/
def detailsFit : Json → Bool
  | .null => true
  | .object _ => true
  | .array items => items.length ≤ 1
  | _ => false

/-- Where the details of a completion hold the reasoning tokens. -/
def detailsPlace : Json → Option Json
  | .object members => Assoc.find? "reasoning_tokens" members
  | .array items => items.head?
  | _ => none

def readDetails : Json → Except DecodeError (Option UInt64) :=
  readOption (readRecord "CompletionTokensDetails" detailFields 0)

theorem readMember_details {key : String} {value : Json} {n n' : UInt64}
    (h : readMember detailFields key value n = .ok n') :
    n' = if key = "reasoning_tokens" then value.count else n := by
  by_cases hkey : "reasoning_tokens" = key
  · subst hkey
    cases h
    rfl
  · simp only [readMember, detailFields, List.find?, beq_eq_false_iff_ne.2 hkey] at h
    cases h
    rw [if_neg (Ne.symm hkey)]

theorem readDetails_fit {value : Json} (hvalue : value.WellFormed) (h : detailsFit value = true) :
    ∃ details, readDetails value = .ok details ∧
      details.getD 0 = ((detailsPlace value).map count).getD 0 := by
  cases value with
  | null => exact ⟨none, rfl, rfl⟩
  | object members =>
    obtain ⟨n, hn⟩ : ∃ n, readMembers detailFields members 0 = .ok n := by
      apply readMembers_succeeds
      intro member _ n
      simp only [readMember, detailFields, List.find?]
      cases "reasoning_tokens" == member.1 <;> exact ⟨_, rfl⟩
    refine ⟨some n, by simp [readDetails, readOption, readRecord, hn, Except.map], ?_⟩
    exact part_of_readMembers id (fun _ _ _ _ _ => readMember_details) hvalue.1 hn
  | array items =>
    cases items with
    | nil => exact ⟨some 0, rfl, rfl⟩
    | cons item rest =>
      cases rest with
      | nil => exact ⟨some item.count, rfl, rfl⟩
      | cons second rest => simp [detailsFit] at h
  | bool | int | double | string => cases h

theorem readDetails_misfit {value : Json} (h : detailsFit value = false) (details : Option UInt64) :
    readDetails value ≠ .ok details := by
  cases value with
  | null | object => cases h
  | array items =>
    obtain ⟨first, second, rest, rfl⟩ : ∃ first second rest, items = first :: second :: rest := by
      match items with
      | [] | [_] => simp [detailsFit] at h
      | first :: second :: rest => exact ⟨first, second, rest, rfl⟩
    intro hread
    cases hread
  | bool | int | double | string =>
    intro hread
    cases hread

/-! ## Whole reports -/

/-- The counts of a report, each with the key that it is reported under. -/
def counted : List (String × (Usage → UInt64)) := [
  ("input_tokens", input), ("cache_read_input_tokens", cacheRead),
  ("cache_creation_input_tokens", cacheCreation), ("output_tokens", output),
  ("reasoning_tokens", reasoningTokens), ("thinking_tokens", thinking)]

theorem readMember_completion (value : Json) (u : Usage) :
    readMember fields "completion_tokens_details" value u =
      (readDetails value).map fun details => { u with details } := by
  change (readDetails value >>= fun details => .ok { u with details }) = _
  cases readDetails value <;> rfl

/-- Any other member is taken, and changes the count of its own key at most. -/
theorem readMember_plain {key : String} (hkey : key ≠ "completion_tokens_details") (value : Json)
    (u : Usage) :
    ∃ u', readMember fields key value u = .ok u' ∧ u'.details = u.details ∧
      ∀ entry ∈ counted, entry.2 u' = if key = entry.1 then value.count else entry.2 u := by
  simp only [readMember]
  cases hfield : fields.find? (·.name == key) with
  | none =>
    refine ⟨u, rfl, rfl, fun entry hentry => ?_⟩
    obtain ⟨field, hfound, hname⟩ : ∃ field ∈ fields, field.name = entry.1 := by
      revert entry
      simp [counted, fields]
    have hother : field.name ≠ key := by simpa using List.find?_eq_none.1 hfield field hfound
    rw [if_neg fun h => hother (hname.trans h.symm)]
  | some field =>
    have hname : field.name = key := by simpa using List.find?_some hfield
    have hmember := List.mem_of_find?_eq_some hfield
    subst hname
    simp only [fields, List.mem_cons, List.not_mem_nil, or_false] at hmember
    rcases hmember with rfl | rfl | rfl | rfl | rfl | rfl | rfl | rfl
    -- The seventh field is that of the details.
    case inr.inr.inr.inr.inr.inr.inl => exact absurd rfl hkey
    all_goals exact ⟨_, rfl, rfl, by simp [counted]⟩

theorem readMember_counted {key : String} {value : Json} {u u' : Usage}
    (h : readMember fields key value u = .ok u') :
    ∀ entry ∈ counted, entry.2 u' = if key = entry.1 then value.count else entry.2 u := by
  by_cases hkey : key = "completion_tokens_details"
  · subst hkey
    rw [readMember_completion] at h
    cases hdetails : readDetails value with
    | error e =>
      rw [hdetails] at h
      cases h
    | ok details =>
      rw [hdetails] at h
      cases h
      simp [counted]
  · obtain ⟨u'', hread, -, hcounts⟩ := readMember_plain hkey value u
    rw [hread] at h
    cases h
    exact hcounts

theorem wellFormed_place {members : List (String × Json)} (h : (object members).WellFormed)
    (key : String) : ∀ v ∈ Assoc.find? key members, v.WellFormed :=
  fun _ hv => wellFormedMembers_iff.1 h.2 _ (Assoc.mem_of_find? hv)

theorem wellFormed_detailsPlace {value : Json} (h : value.WellFormed) :
    ∀ v ∈ detailsPlace value, v.WellFormed := by
  cases value with
  | object members => exact wellFormed_place h "reasoning_tokens"
  | array items =>
    intro v hv
    cases items with
    | nil => cases hv
    | cons item rest =>
      cases hv
      exact h.1
  | null | bool | int | double | string =>
    intro v hv
    cases hv

section

variable {members : List (String × Json)} {u : Usage} (hjson : (object members).WellFormed)

include hjson

/-- A count is that of the value under its key. -/
theorem counted_of_ofJson {key : String} {count : Usage → UInt64}
    (hcount : (key, count) ∈ counted) (hu : ofJson (.object members) = .ok u) :
    Counts (Assoc.find? key members) (count u).toNat := by
  have hstart : count {} = 0 :=
    (by simp [counted] : ∀ entry ∈ counted, entry.2 {} = 0) (key, count) hcount
  have hstep : ∀ k v, (k, v) ∈ members → ∀ u u', readMember fields k v u = .ok u' →
      count u' = if k = key then v.count else count u :=
    fun _ _ _ _ _ h => readMember_counted h (key, count) hcount
  rw [part_of_readMembers count hstep hjson.1 hu, hstart]
  exact counts_place (wellFormed_place hjson key)

/-- The count among the details is that of the place for it in the details. -/
theorem details_of_ofJson
    (hfit : (Assoc.find? "completion_tokens_details" members).all detailsFit = true)
    (hu : ofJson (.object members) = .ok u) :
    Counts ((Assoc.find? "completion_tokens_details" members).bind detailsPlace)
      (u.details.getD 0).toNat := by
  have hstep : ∀ k v, (k, v) ∈ members → ∀ u u', readMember fields k v u = .ok u' →
      u'.details.getD 0 = if k = "completion_tokens_details" then
        ((detailsPlace v).map count).getD 0 else u.details.getD 0 := by
    intro k v hmember u u' hread
    by_cases hk : k = "completion_tokens_details"
    · subst hk
      rw [hjson.1.find?_eq_some_iff.2 hmember] at hfit
      obtain ⟨details, hdetails, hsay⟩ :=
        readDetails_fit (wellFormedMembers_iff.1 hjson.2 _ hmember) hfit
      rw [readMember_completion, hdetails] at hread
      cases hread
      rw [if_pos rfl, ← hsay]
    · obtain ⟨u'', hplain, hsame, -⟩ := readMember_plain hk v u
      rw [hplain] at hread
      cases hread
      rw [if_neg hk, hsame]
  have hcount := part_of_readMembers (fun u : Usage => u.details.getD 0) hstep hjson.1 hu
  rw [hcount]
  cases hfound : Assoc.find? "completion_tokens_details" members with
  | none => exact .missing
  | some v => exact counts_place (wellFormed_detailsPlace (wellFormed_place hjson _ v hfound))

theorem ofJson_succeeds
    (hfit : (Assoc.find? "completion_tokens_details" members).all detailsFit = true) :
    ∃ u, ofJson (.object members) = .ok u := by
  refine readMembers_succeeds (fun (k, v) hmember u => ?_) _
  by_cases hk : k = "completion_tokens_details"
  · subst hk
    rw [hjson.1.find?_eq_some_iff.2 hmember] at hfit
    obtain ⟨details, hdetails, -⟩ :=
      readDetails_fit (wellFormedMembers_iff.1 hjson.2 _ hmember) hfit
    exact ⟨{ u with details }, by rw [readMember_completion, hdetails]; rfl⟩
  · obtain ⟨u', hread, -⟩ := readMember_plain hk v u
    exact ⟨u', hread⟩

end

theorem ofJson_fails {members : List (String × Json)}
    (hmisfit : (Assoc.find? "completion_tokens_details" members).all detailsFit = false)
    (u : Usage) : ofJson (.object members) ≠ .ok u := by
  cases hfound : Assoc.find? "completion_tokens_details" members with
  | none => simp [hfound] at hmisfit
  | some value =>
    rw [hfound] at hmisfit
    refine readMembers_fails (Assoc.mem_of_find? hfound) (fun v v' hread => ?_) {} u
    rw [readMember_completion] at hread
    cases hdetails : readDetails value with
    | error e =>
      rw [hdetails] at hread
      cases hread
    | ok details => exact readDetails_misfit hmisfit details hdetails

end Usage

/-! ## The measures of a response -/

/-- The first of three counts that is not zero. -/
def firstCount (a b c : Nat) : Nat := if a ≠ 0 then a else if b ≠ 0 then b else c

theorem toNat_reasoning (u : Usage) :
    u.reasoning.toNat =
      firstCount u.reasoningTokens.toNat u.thinking.toNat (u.details.getD 0).toNat := by
  have hzero (n : UInt64) : n.toNat = 0 ↔ n = 0 := by rw [← UInt64.toNat_inj, UInt64.toNat_zero]
  simp only [Usage.reasoning, firstCount, ne_eq, hzero]
  by_cases hplain : u.reasoningTokens = 0
  · by_cases hthinking : u.thinking = 0
    · by_cases hdetails : u.details.getD 0 = 0 <;> simp [hplain, hthinking, hdetails]
    · simp [hplain, hthinking]
  · simp [hplain]

/-- Measures that say what the members of a report hold. -/
structure TurnMetrics.Reports (m : TurnMetrics) (members : List (String × Json)) : Prop where
  input : Counts (Assoc.find? "input_tokens" members) m.input.toNat
  cacheRead : Counts (Assoc.find? "cache_read_input_tokens" members) m.cacheRead.toNat
  cacheCreation : Counts (Assoc.find? "cache_creation_input_tokens" members) m.cacheCreation.toNat
  output : Counts (Assoc.find? "output_tokens" members) m.output.toNat
  totalInput : m.totalInput.toNat =
    min (m.input.toNat + m.cacheRead.toNat + m.cacheCreation.toNat) topCount
  total : m.total.toNat =
    min (m.input.toNat + m.cacheRead.toNat + m.cacheCreation.toNat + m.output.toNat) topCount
  reasoning : ∃ plain thinking details,
    Counts (Assoc.find? "reasoning_tokens" members) plain ∧
    Counts (Assoc.find? "thinking_tokens" members) thinking ∧
    Counts ((Assoc.find? "completion_tokens_details" members).bind Usage.detailsPlace) details ∧
    m.reasoning.toNat = firstCount plain thinking details

section

variable {members : List (String × Json)} (hjson : (Json.object members).WellFormed)
  (hfit : (Assoc.find? "completion_tokens_details" members).all Usage.detailsFit = true)

include hjson hfit

theorem reports_ofUsage {u : Usage} (hu : Usage.ofJson (.object members) = .ok u)
    (model provider : Option String) (duration : Option UInt64) :
    (TurnMetrics.ofUsage u model provider duration).Reports members := by
  have hcounts (key : String) (count : Usage → UInt64) (hcount : (key, count) ∈ Usage.counted) :
      Counts (Assoc.find? key members) (count u).toNat := Usage.counted_of_ofJson hjson hcount hu
  constructor
  case input => exact hcounts "input_tokens" Usage.input (by simp [Usage.counted])
  case cacheRead =>
    exact hcounts "cache_read_input_tokens" Usage.cacheRead (by simp [Usage.counted])
  case cacheCreation =>
    exact hcounts "cache_creation_input_tokens" Usage.cacheCreation (by simp [Usage.counted])
  case output => exact hcounts "output_tokens" Usage.output (by simp [Usage.counted])
  case totalInput =>
    simp only [TurnMetrics.ofUsage, Usage.totalInput, toNat_addCounts]
    omega
  case total =>
    simp only [TurnMetrics.ofUsage, Usage.totalInput, toNat_addCounts]
    omega
  case reasoning =>
    exact ⟨_, _, _,
      hcounts "reasoning_tokens" Usage.reasoningTokens (by simp [Usage.counted]),
      hcounts "thinking_tokens" Usage.thinking (by simp [Usage.counted]),
      Usage.details_of_ofJson hjson hfit hu, toNat_reasoning u⟩

theorem exists_reports (model provider : Option String) (duration : Option UInt64) :
    ∃ u, Usage.ofJson (.object members) = .ok u ∧
      (TurnMetrics.ofUsage u model provider duration).Reports members := by
  obtain ⟨u, hu⟩ := Usage.ofJson_succeeds hjson hfit
  exact ⟨u, hu, reports_ofUsage hjson hfit hu model provider duration⟩

end

theorem usage?_of_members {data : Json} {members : List (String × Json)}
    (husage : data.get? "usage" = some (.object members)) (hany : members ≠ []) :
    Signal.usage? data = (Usage.ofJson (.object members)).toOption := by
  cases members with
  | nil => exact absurd rfl hany
  | cons member rest => simp only [Signal.usage?, husage]

/-- A response leaves measures where its usage can be read, and else those there were. -/
theorem metrics_onEvent (now : Nat) (a : Accumulator) (data : Json) :
    (a.onEvent now "provider:response" data).2.current.metrics =
      match Signal.usage? data with
      | some u => some (TurnMetrics.ofUsage u (Signal.rendered? "model" data)
          (Signal.rendered? "provider" data) (a.requested.map (Accumulator.elapsed now)))
      | none => a.current.metrics := by
  simp only [Accumulator.onEvent, Signal.ofEvent?, Accumulator.apply]
  cases Signal.usage? data <;> rfl

/-- A usage with any members is kept, each count read by itself, unless it holds details of the
completion that are not in the shape of details: then nothing of it is kept. -/
theorem usage_kept_where_details_fit (now : Nat) (a : Accumulator) {data : Json}
    {members : List (String × Json)} (husage : data.get? "usage" = some (.object members))
    (hany : members ≠ []) (hjson : (Json.object members).WellFormed) :
    let metrics := (a.onEvent now "provider:response" data).2.current.metrics
    let details := Assoc.find? "completion_tokens_details" members
    (details.all Usage.detailsFit = true → ∃ m, metrics = some m ∧ m.Reports members) ∧
      (details.all Usage.detailsFit = false → metrics = a.current.metrics) := by
  intro metrics details
  have hmetrics : metrics = _ := metrics_onEvent now a data
  rw [usage?_of_members husage hany] at hmetrics
  constructor
  · intro hfit
    obtain ⟨u, hu, hreports⟩ := exists_reports hjson hfit (Signal.rendered? "model" data)
      (Signal.rendered? "provider" data) (a.requested.map (Accumulator.elapsed now))
    rw [hu] at hmetrics
    exact ⟨_, hmetrics, hreports⟩
  · intro hmisfit
    rw [hmetrics]
    cases hu : Usage.ofJson (.object members) with
    | error e => rfl
    | ok u => exact absurd hu (Usage.ofJson_fails hmisfit u)

theorem odd_usage_kept :
    let members : List (String × Json) := [
      ("cache_creation_input_tokens", .null), ("cache_read_input_tokens", .int (.ofInt64 (-3))),
      ("completion_tokens_details", .object [("reasoning_tokens", .string "7")]),
      ("input_tokens", .double ⟨0x4004000000000000⟩), ("output_tokens", .string "12"),
      ("reasoning_tokens", .array [])]
    let data := Json.object [("usage", .object members)]
    data.get? "usage" = some (.object members) ∧ members ≠ [] ∧ (Json.object members).WellFormed ∧
      (Assoc.find? "completion_tokens_details" members).all Usage.detailsFit = true ∧
      ∃ m, ((Accumulator.ofAgent none).onEvent 0 "provider:response"
          data).2.current.metrics = some m ∧
        m.Reports members ∧ m.total = 14 := by
  intro members data
  have husage : data.get? "usage" = some (.object members) := rfl
  have hjson : (Json.object members).WellFormed := by
    simp only [members, Json.WellFormed, Json.WellFormedItems, Json.WellFormedMembers,
      Assoc.Ascending]
    decide
  obtain ⟨m, hm, hreports⟩ :=
    (usage_kept_where_details_fit 0 (.ofAgent none) husage (by simp [members]) hjson).1 rfl
  have htotal : ((Accumulator.ofAgent none).onEvent 0 "provider:response"
      data).2.current.metrics.map (·.total) = some 14 := by decide +kernel
  rw [hm] at htotal
  exact ⟨husage, by simp [members], hjson, rfl, m, hm, hreports, by simpa using htotal⟩

/-- A number in the place of the details: the count beside it is lost. -/
theorem scalar_details_lose_usage :
    let data := Json.object [("usage", .object [
      ("completion_tokens_details", .int (.ofInt64 3)), ("input_tokens", .int (.ofInt64 5))])]
    ((Accumulator.ofAgent none).onEvent 0 "provider:response" data).2.current.metrics = none := by
  decide +kernel

end SessionRecorder
