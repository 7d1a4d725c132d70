/-!
Maps as lists of entries in ascending order of their keys. Insertion keeps the
order, and a look-up finds what was inserted last under its key.
-/

namespace SessionRecorder

namespace Assoc

variable {κ ν : Type} [Ord κ]

/-- Puts a value under a key, in place of one that is there. -/
def insert (k : κ) (v : ν) : List (κ × ν) → List (κ × ν)
  | [] => [(k, v)]
  | (k', v') :: rest =>
    match compare k k' with
    | .lt => (k, v) :: (k', v') :: rest
    | .eq => (k, v) :: rest
    | .gt => (k', v') :: insert k v rest

def find? (k : κ) : List (κ × ν) → Option ν
  | [] => none
  | (k', v') :: rest =>
    match compare k k' with
    | .eq => some v'
    | _ => find? k rest

/-- The entries inserted one after the other, so that of equal keys the last counts. -/
def ofList (entries : List (κ × ν)) : List (κ × ν) :=
  entries.foldl (fun m (k, v) => insert k v m) []

/-- Every key is below the keys behind it. -/
def Ascending (m : List (κ × ν)) : Prop :=
  m.Pairwise fun a b => compare a.1 b.1 = .lt

theorem mem_insert {k : κ} {v : ν} {m : List (κ × ν)} {e : κ × ν} (h : e ∈ insert k v m) :
    e = (k, v) ∨ e ∈ m := by
  induction m with
  | nil => simpa [insert] using h
  | cons head rest ih =>
    obtain ⟨k', v'⟩ := head
    simp only [insert] at h
    split at h <;> simp only [List.mem_cons] at h ⊢
    · exact h
    · rcases h with h | h
      · exact .inl h
      · exact .inr (.inr h)
    · rcases h with h | h
      · exact .inr (.inl h)
      · rcases ih h with h | h
        · exact .inl h
        · exact .inr (.inr h)

theorem mem_foldl_insert {entries m : List (κ × ν)} {e : κ × ν}
    (h : e ∈ entries.foldl (fun m (k, v) => insert k v m) m) : e ∈ entries ∨ e ∈ m := by
  induction entries generalizing m with
  | nil => exact .inr h
  | cons first rest ih =>
    rw [List.mem_cons]
    rcases ih h with hrest | hinsert
    · exact .inl (.inr hrest)
    · exact (mem_insert hinsert).imp_left .inl

theorem mem_ofList {entries : List (κ × ν)} {e : κ × ν} (h : e ∈ ofList entries) : e ∈ entries :=
  (mem_foldl_insert h).resolve_right List.not_mem_nil

theorem length_insert_le (k : κ) (v : ν) (m : List (κ × ν)) :
    (insert k v m).length ≤ m.length + 1 := by
  induction m with
  | nil => exact Nat.le_refl 1
  | cons head rest ih =>
    obtain ⟨k', v'⟩ := head
    simp only [insert]
    split <;> simp only [List.length_cons] <;> omega

theorem length_foldl_insert_le (entries m : List (κ × ν)) :
    (entries.foldl (fun m (k, v) => insert k v m) m).length ≤ m.length + entries.length := by
  induction entries generalizing m with
  | nil => exact Nat.le_refl _
  | cons e rest ih =>
    obtain ⟨k, v⟩ := e
    have hinsert := length_insert_le k v m
    refine Nat.le_trans (ih (insert k v m)) ?_
    rw [List.length_cons]
    omega

theorem length_ofList_le (entries : List (κ × ν)) : (ofList entries).length ≤ entries.length := by
  have h := length_foldl_insert_le entries []
  rwa [List.length_nil, Nat.zero_add] at h

theorem insert_of_all_lt [Std.TransOrd κ] {k : κ} {v : ν} {m : List (κ × ν)}
    (h : ∀ e ∈ m, compare e.1 k = .lt) : insert k v m = m ++ [(k, v)] := by
  induction m with
  | nil => rfl
  | cons head rest ih =>
    obtain ⟨k', v'⟩ := head
    have hk := h (k', v') (List.mem_cons_self ..)
    have : compare k k' = .gt := Std.OrientedCmp.gt_of_lt hk
    simp only [insert, this, List.cons_append]
    rw [ih fun e he => h e (List.mem_cons_of_mem _ he)]

theorem ofList_of_ascending [Std.TransOrd κ] {m : List (κ × ν)} (h : Ascending m) : ofList m = m := by
  have general : ∀ (rest front : List (κ × ν)), Ascending (front ++ rest) →
      rest.foldl (fun m (k, v) => insert k v m) front = front ++ rest := by
    intro rest
    induction rest with
    | nil => intro front _; simp
    | cons e rest ih =>
      intro front hf
      have hlt : ∀ x ∈ front, compare x.1 e.1 = .lt := fun x hx =>
        (List.pairwise_append.1 hf).2.2 x hx e (List.mem_cons_self ..)
      simp only [List.foldl_cons]
      rw [insert_of_all_lt hlt, ih (front ++ [e]) (by simpa using hf)]
      simp
  exact general m [] h

theorem find?_append (k : κ) (m n : List (κ × ν)) :
    find? k (m ++ n) = (find? k m).or (find? k n) := by
  induction m with
  | nil => rfl
  | cons e rest ih =>
    obtain ⟨l, v⟩ := e
    cases h : compare k l <;> simp [find?, h, ih]

theorem find?_of_all_lt {k : κ} {m : List (κ × ν)} (h : ∀ e ∈ m, compare k e.1 = .lt) :
    find? k m = none := by
  induction m with
  | nil => rfl
  | cons head rest ih =>
    rw [find?, h head (List.mem_cons_self ..)]
    exact ih fun e he => h e (List.mem_cons_of_mem _ he)

theorem Ascending.find?_of_lt [Std.TransOrd κ] {k l : κ} {v : ν} {m : List (κ × ν)}
    (h : Ascending ((k, v) :: m)) (hl : compare l k = .lt) : find? l ((k, v) :: m) = none :=
  find?_of_all_lt fun e he => by
    rcases List.mem_cons.1 he with rfl | he
    · exact hl
    · exact Std.TransCmp.lt_trans hl ((List.pairwise_cons.1 h).1 e he)

/-- A key that is not there is put in front of the keys above it. -/
theorem exists_insert_eq [Std.TransOrd κ] {k : κ} {m : List (κ × ν)} (h : Ascending m)
    (hk : find? k m = none) (v : ν) :
    ∃ below, m = below ++ m.filter (compare k ·.1 == .lt) ∧
      insert k v m = below ++ (k, v) :: m.filter (compare k ·.1 == .lt) := by
  induction m with
  | nil => exact ⟨[], rfl, rfl⟩
  | cons e rest ih =>
    obtain ⟨l, w⟩ := e
    obtain ⟨hhead, hrest⟩ := List.pairwise_cons.1 h
    cases hkl : compare k l with
    | eq => simp [find?, hkl] at hk
    | lt =>
      have habove : ((l, w) :: rest).filter (compare k ·.1 == .lt) = (l, w) :: rest := by
        refine List.filter_eq_self.2 fun e he => beq_iff_eq.2 ?_
        rcases List.mem_cons.1 he with rfl | he
        · exact hkl
        · exact Std.TransCmp.lt_trans hkl (hhead e he)
      exact ⟨[], by rw [habove, List.nil_append], by rw [habove]; simp [insert, hkl]⟩
    | gt =>
      rw [find?, hkl] at hk
      obtain ⟨below, hsplit, hinsert⟩ := ih hrest hk
      have hskip : ((l, w) :: rest).filter (compare k ·.1 == .lt) =
          rest.filter (compare k ·.1 == .lt) := List.filter_cons_of_neg (by simp [hkl])
      refine ⟨(l, w) :: below, ?_, ?_⟩
      · rw [hskip, List.cons_append, ← hsplit]
      · rw [hskip, List.cons_append, ← hinsert]
        simp [insert, hkl]

variable [Std.LawfulEqOrd κ]

theorem find?_cons_self (k : κ) (v : ν) (m : List (κ × ν)) : find? k ((k, v) :: m) = some v := by
  simp [find?, Std.ReflCmp.compare_self]

theorem find?_cons_of_ne {k l : κ} (h : k ≠ l) (v : ν) (m : List (κ × ν)) :
    find? k ((l, v) :: m) = find? k m := by
  cases hkl : compare k l with
  | eq => exact absurd (Std.LawfulEqCmp.eq_of_compare hkl) h
  | lt | gt => simp [find?, hkl]

theorem find?_insert_self (k : κ) (v : ν) (m : List (κ × ν)) :
    find? k (insert k v m) = some v := by
  induction m with
  | nil => simp [insert, find?, Std.ReflCmp.compare_self]
  | cons head rest ih =>
    obtain ⟨k', v'⟩ := head
    simp only [insert]
    split
    · simp [find?, Std.ReflCmp.compare_self]
    · simp [find?, Std.ReflCmp.compare_self]
    · rename_i h
      simp [find?, h, ih]

theorem find?_insert_of_ne {k l : κ} (h : k ≠ l) (v : ν) (m : List (κ × ν)) :
    find? l (insert k v m) = find? l m := by
  have hlk : compare l k ≠ .eq := fun e => h (Std.LawfulEqCmp.eq_of_compare e).symm
  induction m with
  | nil =>
    simp only [insert, find?]
  | cons head rest ih =>
    obtain ⟨k', v'⟩ := head
    simp only [insert]
    split
    · simp only [find?]
    · rename_i he
      have := Std.LawfulEqCmp.eq_of_compare he
      subst this
      simp only [find?]
    · simp only [find?, ih]

theorem find?_insert (k l : κ) (v : ν) (m : List (κ × ν)) :
    find? l (insert k v m) = (find? l [(k, v)]).or (find? l m) := by
  by_cases h : k = l
  · subst h
    rw [find?_insert_self, find?_cons_self, Option.some_or]
  · have hlk : compare l k ≠ .eq := fun e => h (Std.LawfulEqCmp.eq_of_compare e).symm
    rw [find?_insert_of_ne h]
    simp [find?]

theorem find?_foldl_insert (k : κ) (entries m : List (κ × ν)) :
    find? k (entries.foldl (fun m (l, v) => insert l v m) m) =
      (find? k entries.reverse).or (find? k m) := by
  induction entries generalizing m with
  | nil => rfl
  | cons e rest ih =>
    rw [List.foldl_cons, ih, find?_insert, List.reverse_cons, find?_append, Option.or_assoc]

/-- Of several entries with one key the last is found. -/
theorem find?_ofList (k : κ) (entries : List (κ × ν)) :
    find? k (ofList entries) = find? k entries.reverse :=
  (find?_foldl_insert k entries []).trans Option.or_none

theorem find?_eq_none_iff {k : κ} {m : List (κ × ν)} : find? k m = none ↔ k ∉ m.map (·.1) := by
  induction m with
  | nil => simp [find?]
  | cons e rest ih =>
    obtain ⟨l, v⟩ := e
    by_cases h : k = l
    · subst h
      simp [find?_cons_self]
    · simp [find?_cons_of_ne h, ih, h]

theorem mem_of_find? {k : κ} {v : ν} {m : List (κ × ν)} (h : find? k m = some v) : (k, v) ∈ m := by
  induction m with
  | nil => cases h
  | cons e rest ih =>
    obtain ⟨l, w⟩ := e
    by_cases hkl : k = l
    · subst hkl
      rw [find?_cons_self] at h
      cases h
      exact List.mem_cons_self ..
    · rw [find?_cons_of_ne hkl] at h
      exact List.mem_cons_of_mem _ (ih h)

theorem Ascending.find?_eq_some_iff {k : κ} {v : ν} {m : List (κ × ν)} (h : Ascending m) :
    find? k m = some v ↔ (k, v) ∈ m := by
  refine ⟨mem_of_find?, fun hmem => ?_⟩
  induction m with
  | nil => cases hmem
  | cons e rest ih =>
    obtain ⟨hhead, hrest⟩ := List.pairwise_cons.1 h
    rcases List.mem_cons.1 hmem with rfl | hmem
    · exact find?_cons_self k v rest
    · have hne : k ≠ e.1 := by
        rintro rfl
        simpa [Std.ReflCmp.compare_self] using hhead _ hmem
      rw [find?_cons_of_ne hne]
      exact ih hrest hmem

theorem find?_filter_key (p : κ → Bool) (k : κ) (m : List (κ × ν)) :
    find? k (m.filter fun e => p e.1) = if p k then find? k m else none := by
  induction m with
  | nil => simp [find?]
  | cons e rest ih =>
    obtain ⟨l, v⟩ := e
    by_cases hkl : k = l
    · subst hkl
      cases hp : p k <;> simp [hp, ih, find?_cons_self]
    · cases hp : p l <;> simp [hp, ih, find?_cons_of_ne hkl]

/-- Values that do not satisfy `p` are not found where their entries are left out. -/
theorem find?_filter {m : List (κ × ν)} (h : Ascending m) (p : ν → Bool) (k : κ) :
    find? k (m.filter fun e => p e.2) = (find? k m).filter p := by
  induction m with
  | nil => rfl
  | cons e rest ih =>
    obtain ⟨l, v⟩ := e
    obtain ⟨hhead, hrest⟩ := List.pairwise_cons.1 h
    rw [List.filter_cons]
    cases hkl : compare k l with
    | eq =>
      obtain rfl := Std.LawfulEqCmp.eq_of_compare hkl
      have hnone : find? k (rest.filter fun e => p e.2) = none :=
        find?_of_all_lt fun e he => hhead e (List.mem_filter.1 he).1
      cases hv : p v <;> simp [find?, hnone, Option.filter, hv, Std.ReflCmp.compare_self]
    | lt | gt => cases hv : p v <;> simp [find?, hkl, ih hrest]

variable [Std.TransOrd κ]

theorem ascending_insert {k : κ} {v : ν} {m : List (κ × ν)} (h : Ascending m) :
    Ascending (insert k v m) := by
  induction m with
  | nil => simp [insert, Ascending]
  | cons head rest ih =>
    obtain ⟨k', v'⟩ := head
    have hrest := (List.pairwise_cons.1 h).2
    have hhead := (List.pairwise_cons.1 h).1
    simp only [insert]
    split
    · rename_i hlt
      refine List.pairwise_cons.2 ⟨fun e he => ?_, h⟩
      rcases List.mem_cons.1 he with rfl | he
      · exact hlt
      · exact Std.TransCmp.lt_trans hlt (hhead e he)
    · rename_i heq
      have := Std.LawfulEqCmp.eq_of_compare heq
      subst this
      exact List.pairwise_cons.2 ⟨hhead, hrest⟩
    · rename_i hgt
      refine List.pairwise_cons.2 ⟨fun e he => ?_, ih hrest⟩
      rcases mem_insert he with rfl | he
      · exact Std.OrientedCmp.lt_of_gt hgt
      · exact hhead e he

theorem ascending_foldl_insert (entries : List (κ × ν)) {m : List (κ × ν)} (h : Ascending m) :
    Ascending (entries.foldl (fun m (k, v) => insert k v m) m) := by
  induction entries generalizing m with
  | nil => exact h
  | cons e rest ih => exact ih (ascending_insert h)

theorem ascending_ofList (entries : List (κ × ν)) : Ascending (ofList entries) :=
  ascending_foldl_insert entries List.Pairwise.nil

theorem Ascending.ext {m n : List (κ × ν)} (hm : Ascending m) (hn : Ascending n)
    (h : ∀ k, find? k m = find? k n) : m = n := by
  induction m generalizing n with
  | nil =>
    cases n with
    | nil => rfl
    | cons e n =>
      have hfirst := h e.1
      rw [find?_cons_self] at hfirst
      cases hfirst
  | cons d m ih =>
    obtain ⟨k, v⟩ := d
    have hfirst := h k
    rw [find?_cons_self] at hfirst
    cases n with
    | nil => cases hfirst
    | cons e n =>
      obtain ⟨l, w⟩ := e
      cases hkl : compare k l with
      | lt =>
        rw [hn.find?_of_lt hkl] at hfirst
        cases hfirst
      | gt =>
        have hsecond := h l
        rw [hm.find?_of_lt (Std.OrientedCmp.lt_of_gt hkl), find?_cons_self] at hsecond
        cases hsecond
      | eq =>
        obtain rfl := Std.LawfulEqCmp.eq_of_compare hkl
        rw [find?_cons_self] at hfirst
        cases hfirst
        have hm' := List.pairwise_cons.1 hm
        have hn' := List.pairwise_cons.1 hn
        congr 1
        refine ih hm'.2 hn'.2 fun i => ?_
        cases hik : compare i k with
        | eq =>
          obtain rfl := Std.LawfulEqCmp.eq_of_compare hik
          rw [find?_of_all_lt hm'.1, find?_of_all_lt hn'.1]
        | lt | gt => simpa [find?, hik] using h i

/-- Ascending entries take the place of any that have no other keys. -/
theorem foldl_insert_of_subset {entries m : List (κ × ν)} (h : Ascending entries)
    (hm : Ascending m) (hkeys : m.map (·.1) ⊆ entries.map (·.1)) :
    entries.foldl (fun m (k, v) => insert k v m) m = entries := by
  refine (ascending_foldl_insert entries hm).ext h fun k => ?_
  rw [find?_foldl_insert, ← find?_ofList, ofList_of_ascending h]
  cases hk : find? k entries with
  | some v => rfl
  | none =>
    rw [Option.none_or, find?_eq_none_iff]
    exact fun hmem => find?_eq_none_iff.1 hk (hkeys hmem)

end Assoc

end SessionRecorder
