import Mathlib.Data.List.Induction
import Mathlib.Data.String.Basic
import HomeHub.Proofs.JsonText

/-!
A document without real numbers is read back from its text. Documents as they are read have their
members in ascending order, and then the text has them in the order in which they are put together
again.
-/

namespace HomeHub.Json

variable {key k : String} {v : Json} {members : List (String × Json)}

/-! ### Members -/

/-- The keys stand in ascending order, each once. -/
def Ascending (members : List (String × Json)) : Prop :=
  (members.map Prod.fst).Pairwise (· < ·)

instance : Decidable (Ascending members) :=
  inferInstanceAs (Decidable ((members.map Prod.fst).Pairwise (· < ·)))

lemma ascending_append {m : String × Json} : Ascending (members ++ [m]) ↔
    Ascending members ∧ ∀ m' ∈ members, m'.1 < m.1 := by
  simp [Ascending, List.pairwise_append]

lemma ascending_cons {m : String × Json} : Ascending (m :: members) ↔
    (∀ m' ∈ members, m.1 < m'.1) ∧ Ascending members := by
  simp [Ascending]

@[simp]
lemma member?_nil (key : String) : member? key [] = none := rfl

lemma member?_cons (key k : String) (v : Json) (members : List (String × Json)) :
    member? key ((k, v) :: members) = if k = key then some v else member? key members := by
  by_cases h : k = key <;> simp [member?, h]

lemma member?_insert (key k : String) (v : Json) (members : List (String × Json)) :
    member? key (insert k v members) = if k = key then some v else member? key members := by
  induction members with
  | nil => exact member?_cons key k v []
  | cons m members ih =>
    obtain ⟨k', v'⟩ := m
    rw [insert]
    split
    · exact member?_cons ..
    split
    · rename_i heq
      simp only [member?_cons, heq]
      split <;> rfl
    · -- the member that stands here is another one
      rename_i hne
      rw [member?_cons, member?_cons, ih]
      by_cases hk : k' = key
      · subst hk
        rw [if_pos rfl, if_neg hne, if_pos rfl]
      · rw [if_neg hk, if_neg hk]

lemma mem_insert {m : String × Json} (h : m ∈ insert key v members) :
    m = (key, v) ∨ m ∈ members := by
  induction members with
  | nil => exact .inl (List.mem_singleton.mp h)
  | cons m' members ih =>
    obtain ⟨k', v'⟩ := m'
    rw [insert] at h
    split_ifs at h
    · exact List.mem_cons.mp h
    · exact (List.mem_cons.mp h).imp_right (List.mem_cons_of_mem _)
    · rcases List.mem_cons.mp h with rfl | h
      · exact .inr (List.mem_cons_self ..)
      · exact (ih h).imp_right (List.mem_cons_of_mem _)

lemma ascending_insert (h : Ascending members) : Ascending (insert key v members) := by
  induction members with
  | nil => simp [Ascending, insert]
  | cons m members ih =>
    obtain ⟨k, w⟩ := m
    obtain ⟨hfirst, hrest⟩ := ascending_cons.mp h
    rw [insert]
    split_ifs with hlt heq
    · refine ascending_cons.mpr ⟨List.forall_mem_cons.mpr ⟨hlt, fun m' hm' => ?_⟩, h⟩
      exact lt_trans hlt (hfirst m' hm')
    · subst heq
      exact ascending_cons.mpr ⟨hfirst, hrest⟩
    · refine ascending_cons.mpr ⟨fun m' hm' => ?_, ih hrest⟩
      rcases mem_insert hm' with rfl | hm'
      · exact lt_of_le_of_ne (not_lt.mp hlt) (Ne.symm heq)
      · exact hfirst m' hm'

lemma insert_of_lt (h : ∀ m ∈ members, m.1 < key) :
    insert key v members = members ++ [(key, v)] := by
  induction members with
  | nil => rfl
  | cons m members ih =>
    obtain ⟨k, w⟩ := m
    obtain ⟨hlt, hrest⟩ := List.forall_mem_cons.mp h
    rw [insert, if_neg (lt_asymm hlt), if_neg (ne_of_gt hlt), ih hrest]
    rfl

lemma sorted_append (members : List (String × Json)) (m : String × Json) :
    sorted (members ++ [m]) = insert m.1 m.2 (sorted members) := by
  rw [sorted, List.foldl_append]
  rfl

lemma ascending_sorted (members : List (String × Json)) : Ascending (sorted members) := by
  induction members using List.reverseRecOn with
  | nil => simp [Ascending, sorted]
  | append_singleton members m ih =>
    rw [sorted_append]
    exact ascending_insert ih

lemma mem_of_mem_sorted {m : String × Json} (h : m ∈ sorted members) : m ∈ members := by
  induction members using List.reverseRecOn with
  | nil => cases h
  | append_singleton members m' ih =>
    rw [sorted_append] at h
    rcases mem_insert h with rfl | h
    · simp
    · exact List.mem_append_left _ (ih h)

lemma sorted_of_ascending (h : Ascending members) : sorted members = members := by
  induction members using List.reverseRecOn with
  | nil => rfl
  | append_singleton members m ih =>
    obtain ⟨hrest, hlast⟩ := ascending_append.mp h
    rw [sorted_append, ih hrest]
    exact insert_of_lt hlast

lemma member?_sorted (key : String) (members : List (String × Json)) :
    member? key (sorted members) = member? key members.reverse := by
  induction members using List.reverseRecOn with
  | nil => rfl
  | append_singleton members m ih =>
    obtain ⟨k, v⟩ := m
    rw [sorted_append, member?_insert, List.reverse_append, List.reverse_singleton,
      List.singleton_append, member?_cons, ih]

/-! ### Documents -/

/-- In every object the members stand in ascending order. -/
inductive Canonical : Json → Prop
  | null : Canonical .null
  | bool (b : Bool) : Canonical (.bool b)
  | number (n : Number) : Canonical (.number n)
  | string (s : String) : Canonical (.string s)
  | array {items : List Json} (items_canonical : ∀ v ∈ items, Canonical v) :
    Canonical (.array items)
  | object {members : List (String × Json)} (ascending : Ascending members)
    (values_canonical : ∀ m ∈ members, Canonical m.2) : Canonical (.object members)

/-- Every number is an integer. -/
inductive Integral : Json → Prop
  | null : Integral .null
  | bool (b : Bool) : Integral (.bool b)
  | natural (n : UInt64) : Integral (.number (.natural n))
  | negative (n : Fin (Nat.pow 2 63)) : Integral (.number (.negative n))
  | string (s : String) : Integral (.string s)
  | array {items : List Json} (items_integral : ∀ v ∈ items, Integral v) : Integral (.array items)
  | object {members : List (String × Json)} (values_integral : ∀ m ∈ members, Integral m.2) :
    Integral (.object members)

lemma depthItems_le_iff {items : List Json} {n : Nat} :
    depthItems items ≤ n ↔ ∀ v ∈ items, v.depth ≤ n := by
  induction items with
  | nil => simp [depthItems]
  | cons v items ih => rw [depthItems, Nat.max_le, ih, List.forall_mem_cons]

lemma depthMembers_le_iff {n : Nat} :
    depthMembers members ≤ n ↔ ∀ m ∈ members, m.2.depth ≤ n := by
  induction members with
  | nil => simp [depthMembers]
  | cons m members ih => rw [depthMembers, Nat.max_le, ih, List.forall_mem_cons]

/-- The text of a member. -/
def memberChars (m : String × Json) : List Char := stringChars m.1 ++ ':' :: m.2.chars

lemma itemsChars_eq (items : List Json) :
    itemsChars items = [','].intercalate (items.map chars) := by
  induction items with
  | nil => rfl
  | cons v items ih =>
    cases items with
    | nil => simp [itemsChars]
    | cons w items =>
      rw [itemsChars, ih]
      · simp [List.intercalate_cons_cons]
      · exact nofun

lemma membersChars_eq (members : List (String × Json)) :
    membersChars members = [','].intercalate (members.map memberChars) := by
  induction members with
  | nil => rfl
  | cons m members ih =>
    cases members with
    | nil => simp [membersChars, memberChars]
    | cons m' members =>
      rw [membersChars, ih]
      · simp [List.intercalate_cons_cons, memberChars]
      · exact nofun

/-! ### What is printed is read -/

lemma skipSpace_of_readValue {s r : List Char} {n : Nat} (h : readValue n s = some (v, r)) :
    skipSpace s = s := by
  cases s with
  | nil => rfl
  | cons c s =>
    refine skipSpace_of_not_isSpace (Bool.eq_false_iff.mpr fun hc => ?_) s
    rw [readValue_eq_none n (.inl hc)] at h
    cases h

lemma reads_value {s : List Char} {n : Nat} (h : readValue n s = some (v, [])) :
    Reads (readValue n) s v :=
  ⟨[], (skipSpace_of_readValue h).symm ▸ h, blank_nil⟩

lemma reads_member {s : List Char} {n : Nat} (key : String) (h : readValue n s = some (v, [])) :
    Reads (readMember (readValue n)) (stringChars key ++ ':' :: s) (key, v) := by
  refine ⟨[], ?_, blank_nil⟩
  rw [skipSpace_stringChars]
  refine readMember_eq_some_iff.mpr ⟨':' :: s, s, readString_stringChars key _, ?_, ?_⟩
  · exact skipSpace_of_not_isSpace (by decide) s
  · rwa [skipSpace_of_readValue h]

lemma readValue_array {items : List Json} {n : Nat}
    (h : ∀ v ∈ items, readValue n v.chars = some (v, [])) :
    readValue (n + 1) (array items).chars = some (.array items, []) := by
  have hitems : List.Forall₂ (Reads (readValue n)) (items.map chars) items := by
    rw [List.forall₂_map_left_iff, List.forall₂_same]
    exact fun v hv => reads_value (h v hv)
  have hread : readEnclosed (readValue n) ']' (itemsChars items ++ [']']) = some (items, []) :=
    readEnclosed_values_iff.mpr ⟨_, _, rfl, .inl (itemsChars_eq items), hitems⟩
  exact congrArg (Option.map _) hread

lemma reads_members {n : Nat} (h : ∀ m ∈ members, readValue n m.2.chars = some (m.2, [])) :
    List.Forall₂ (Reads (readMember (readValue n))) (members.map memberChars) members := by
  rw [List.forall₂_map_left_iff, List.forall₂_same]
  exact fun m hm => reads_member m.1 (h m hm)

lemma readValue_object {n : Nat} (h : ∀ m ∈ members, readValue n m.2.chars = some (m.2, [])) :
    readValue (n + 1) (object members).chars = some (.object (sorted members), []) :=
  readValue_eq_object_iff.mpr
    ⟨_, _, members, rfl, .inl (membersChars_eq members), reads_members h, rfl⟩

lemma readValue_string (n : Nat) (s : String) :
    readValue n (string s).chars = some (.string s, []) := by
  have hread := readString_stringChars s []
  rw [List.append_nil] at hread
  rw [chars, stringChars, List.cons_append, readValue_of_ne n (by decide)]
  exact congrArg (Option.map _) hread

/-- **A document without real numbers is read back from its text.** -/
theorem readValue_chars (hc : v.Canonical) (hi : v.Integral) {n : Nat} (hn : v.depth ≤ n) :
    readValue n v.chars = some (v, []) := by
  induction hc generalizing n with
  | null => exact readValue_of_ne n (by decide)
  | bool b => cases b <;> exact readValue_of_ne n (by decide)
  | number m =>
    cases hi with
    | natural m => exact readValue_of_readNumber n (readNumber_natural m)
    | negative m => exact readValue_of_readNumber n (readNumber_negative m)
  | string s => exact readValue_string n s
  | @array items _ ih =>
    cases hi with
    | array hi =>
      rw [depth] at hn
      obtain ⟨n, rfl⟩ : ∃ k, n = k + 1 := ⟨n - 1, by omega⟩
      have hdepth := depthItems_le_iff.mp (Nat.le_of_succ_le_succ hn)
      exact readValue_array fun v hv => ih v hv (hi v hv) (hdepth v hv)
  | @object members hascending _ ih =>
    cases hi with
    | object hi =>
      rw [depth] at hn
      obtain ⟨n, rfl⟩ : ∃ k, n = k + 1 := ⟨n - 1, by omega⟩
      have hdepth := depthMembers_le_iff.mp (Nat.le_of_succ_le_succ hn)
      have hread := readValue_object fun m hm => ih m hm (hi m hm) (hdepth m hm)
      rwa [sorted_of_ascending hascending] at hread

/-! ### What is read is canonical -/

/-- A document as it is read with at most `n` nested arrays and objects. -/
structure Readable (n : Nat) (v : Json) : Prop where
  canonical : v.Canonical
  depth_le : v.depth ≤ n

lemma readable_of_readScalar {s r : List Char} {n : Nat} (h : readScalar s = some (v, r)) :
    Readable n v := by
  unfold readScalar at h
  split at h
  · obtain ⟨rfl, -⟩ := Prod.mk.inj (Option.some.inj h)
    exact ⟨.null, Nat.zero_le n⟩
  · obtain ⟨rfl, -⟩ := Prod.mk.inj (Option.some.inj h)
    exact ⟨.bool true, Nat.zero_le n⟩
  · obtain ⟨rfl, -⟩ := Prod.mk.inj (Option.some.inj h)
    exact ⟨.bool false, Nat.zero_le n⟩
  · obtain ⟨x, -, hx⟩ := Option.map_eq_some_iff.mp h
    obtain ⟨rfl, -⟩ := Prod.mk.inj hx
    exact ⟨.string x.1, Nat.zero_le n⟩
  · obtain ⟨x, -, hx⟩ := Option.map_eq_some_iff.mp h
    obtain ⟨rfl, -⟩ := Prod.mk.inj hx
    exact ⟨.number x.1, Nat.zero_le n⟩

lemma readable_array {items : List Json} {n : Nat} (h : ∀ v ∈ items, Readable n v) :
    Readable (n + 1) (.array items) :=
  ⟨.array fun v hv => (h v hv).canonical,
    Nat.succ_le_succ (depthItems_le_iff.mpr fun v hv => (h v hv).depth_le)⟩

lemma readable_object {n : Nat} (h : ∀ m ∈ members, Readable n m.2) :
    Readable (n + 1) (.object (sorted members)) := by
  replace h : ∀ m ∈ sorted members, Readable n m.2 := fun m hm => h m (mem_of_mem_sorted hm)
  exact ⟨.object (ascending_sorted members) fun m hm => (h m hm).canonical,
    Nat.succ_le_succ (depthMembers_le_iff.mpr fun m hm => (h m hm).depth_le)⟩

lemma readable_of_readValue {n : Nat} : ∀ {v : Json} {s r : List Char},
    readValue n s = some (v, r) → Readable n v := by
  induction n with
  | zero => exact readable_of_readScalar
  | succ n ih =>
    intro v s r h
    unfold readValue at h
    split at h
    · obtain ⟨⟨items, r'⟩, hread, hv⟩ := Option.map_eq_some_iff.mp h
      obtain ⟨rfl, -⟩ := Prod.mk.inj hv
      obtain ⟨_, _, _, _, hitems⟩ := readEnclosed_values_iff.mp hread
      exact readable_array (forall_mem_of_reads ih hitems)
    · obtain ⟨⟨members, r'⟩, hread, hv⟩ := Option.map_eq_some_iff.mp h
      obtain ⟨rfl, -⟩ := Prod.mk.inj hv
      obtain ⟨_, _, _, _, hmembers⟩ := readEnclosed_members_iff.mp hread
      refine readable_object (forall_mem_of_reads (fun hm => ?_) hmembers)
      obtain ⟨_, _, -, -, hv⟩ := readMember_eq_some_iff.mp hm
      exact ih hv
    · exact readable_of_readScalar h

/-! ### Bytes -/

lemma ofChars?_of_readValue {s : List Char} (h : readValue maxDepth s = some (v, [])) :
    ofChars? s = some v := by
  rw [ofChars?, skipSpace_of_readValue h, h]
  rfl

lemma ofBytes?_encode (s : List Char) : ofBytes? (Utf8.encode s) = ofChars? s := by
  rw [ofBytes?, Utf8.decode?_encode, Option.bind_some]

lemma ofBytes?_bytes (h : Readable maxDepth v) (hi : v.Integral) : ofBytes? v.bytes = some v :=
  (ofBytes?_encode v.chars).trans
    (ofChars?_of_readValue (readValue_chars h.canonical hi h.depth_le))

/-- **What has been read is read again** from the text that it is printed as, if it has no real
numbers. -/
theorem ofBytes?_bytes_of_ofBytes? {bs : Bytes} (h : ofBytes? bs = some v) (hi : v.Integral) :
    ofBytes? v.bytes = some v := by
  obtain ⟨s, -, hs⟩ := Option.bind_eq_some_iff.mp h
  unfold ofChars? at hs
  split at hs
  · rename_i w rest hread
    split at hs
    · obtain rfl := Option.some.inj hs
      exact ofBytes?_bytes (readable_of_readValue hread) hi
    · cases hs
  · cases hs

end HomeHub.Json
