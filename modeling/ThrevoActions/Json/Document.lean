import ThrevoActions.Canonical

/-!
# Documents and their normal forms

What a document is apart from the order of its dictionaries: `JsonValue.same` compares dictionaries
as maps, and `JsonValue.sorted` picks the representative whose keys ascend at every level. Two
documents with distinct keys are the same exactly when their representatives are equal.

The normal form of a document has every string and every key in NFC. `normalize` computes it, or
refuses: it refuses floats, and dictionaries two of whose keys have one NFC.
-/

namespace ThrevoActions

namespace JsonValue

/-- Induction on documents, through the items of lists and the values of dictionaries. -/
@[elab_as_elim]
theorem induction {motive : JsonValue → Prop} (null : motive .null)
    (bool : ∀ b, motive (.bool b)) (int : ∀ n, motive (.int n))
    (float : ∀ bits, motive (.float bits)) (str : ∀ s, motive (.str s))
    (list : ∀ items, (∀ item ∈ items, motive item) → motive (.list items))
    (dict : ∀ entries, (∀ entry ∈ entries, motive entry.2) → motive (.dict entries))
    (v : JsonValue) : motive v :=
  @JsonValue.rec motive (fun items ↦ ∀ item ∈ items, motive item)
    (fun entries ↦ ∀ entry ∈ entries, motive entry.2) (fun entry ↦ motive entry.2)
    null bool int float str list dict
    (fun _ hmem ↦ absurd hmem List.not_mem_nil)
    (fun _ _ hhead htail ↦ List.forall_mem_cons.mpr ⟨hhead, htail⟩)
    (fun _ hmem ↦ absurd hmem List.not_mem_nil)
    (fun _ _ hhead htail ↦ List.forall_mem_cons.mpr ⟨hhead, htail⟩)
    (fun _ _ hvalue ↦ hvalue) v

/-! ## Predicates on documents -/

/-- The keys of a dictionary. -/
abbrev keys {β : Type} (entries : List (PyStr × β)) : List PyStr := entries.map Prod.fst

mutual

/-- Every dictionary has distinct keys, as a Python `dict` has. -/
def keyed : JsonValue → Bool
  | .list items => keyedList items
  | .dict entries => decide (keys entries).Nodup && keyedEntries entries
  | .null | .bool _ | .int _ | .float _ | .str _ => true

def keyedList : List JsonValue → Bool
  | [] => true
  | item :: items => keyed item && keyedList items

def keyedEntries : List (PyStr × JsonValue) → Bool
  | [] => true
  | (_, item) :: entries => keyed item && keyedEntries entries

end

mutual

/-- There is no float. -/
def floatFree : JsonValue → Bool
  | .list items => floatFreeList items
  | .dict entries => floatFreeEntries entries
  | .float _ => false
  | .null | .bool _ | .int _ | .str _ => true

def floatFreeList : List JsonValue → Bool
  | [] => true
  | item :: items => floatFree item && floatFreeList items

def floatFreeEntries : List (PyStr × JsonValue) → Bool
  | [] => true
  | (_, item) :: entries => floatFree item && floatFreeEntries entries

end

@[simp] theorem keyedList_eq_all (items : List JsonValue) :
    keyedList items = items.all keyed := by
  induction items with
  | nil => rfl
  | cons item items ih => rw [keyedList, ih, List.all_cons]

@[simp] theorem keyedEntries_eq_all (entries : List (PyStr × JsonValue)) :
    keyedEntries entries = entries.all (keyed ·.2) := by
  induction entries with
  | nil => rfl
  | cons entry entries ih => rw [keyedEntries, ih, List.all_cons]

@[simp] theorem floatFreeList_eq_all (items : List JsonValue) :
    floatFreeList items = items.all floatFree := by
  induction items with
  | nil => rfl
  | cons item items ih => rw [floatFreeList, ih, List.all_cons]

@[simp] theorem floatFreeEntries_eq_all (entries : List (PyStr × JsonValue)) :
    floatFreeEntries entries = entries.all (floatFree ·.2) := by
  induction entries with
  | nil => rfl
  | cons entry entries ih => rw [floatFreeEntries, ih, List.all_cons]

@[simp] theorem printableList_eq_all (items : List JsonValue) :
    printableList items = items.all printable := by
  induction items with
  | nil => rfl
  | cons item items ih => rw [printableList, ih, List.all_cons]

@[simp] theorem printableEntries_eq_all (entries : List (PyStr × JsonValue)) :
    printableEntries entries = entries.all (printable ·.2) := by
  induction entries with
  | nil => rfl
  | cons entry entries ih => rw [printableEntries, ih, List.all_cons]

/-! ## Dictionaries as maps -/

mutual

/-- Equality of documents, dictionaries compared as maps and booleans told from integers. -/
def same : JsonValue → JsonValue → Bool
  | .null, .null => true
  | .bool a, .bool b => a == b
  | .int a, .int b => a == b
  | .float a, .float b => a == b
  | .str a, .str b => a == b
  | .list a, .list b => sameList a b
  | .dict a, .dict b => decide (a.length = b.length) && sameEntries a b
  | _, _ => false

def sameList : List JsonValue → List JsonValue → Bool
  | [], [] => true
  | x :: xs, y :: ys => same x y && sameList xs ys
  | _, _ => false

/-- Every entry of the first dictionary is in the second. -/
def sameEntries : List (PyStr × JsonValue) → List (PyStr × JsonValue) → Bool
  | [], _ => true
  | (key, x) :: entries, other =>
    (match other.lookup key with
      | some y => same x y
      | none => false) && sameEntries entries other

end

mutual

/-- The same document with ascending keys at every level. -/
def sorted : JsonValue → JsonValue
  | .list items => .list (sortedList items)
  | .dict entries => .dict (sortEntries (sortedEntries entries))
  | .null => .null
  | .bool b => .bool b
  | .int n => .int n
  | .float bits => .float bits
  | .str s => .str s

def sortedList : List JsonValue → List JsonValue
  | [] => []
  | item :: items => sorted item :: sortedList items

def sortedEntries : List (PyStr × JsonValue) → List (PyStr × JsonValue)
  | [] => []
  | (key, item) :: entries => (key, sorted item) :: sortedEntries entries

end

@[simp] theorem sortedList_eq_map (items : List JsonValue) :
    sortedList items = items.map sorted := by
  induction items with
  | nil => rfl
  | cons item items ih => rw [sortedList, ih, List.map_cons]

@[simp] theorem sortedEntries_eq_map (entries : List (PyStr × JsonValue)) :
    sortedEntries entries = entries.map (Prod.map id sorted) := by
  induction entries with
  | nil => rfl
  | cons entry entries ih => rw [sortedEntries, ih, List.map_cons]; rfl

end JsonValue

/-! ### Sorting entries -/

section SortEntries

variable {β γ : Type}

theorem sortEntries_perm (entries : List (PyStr × β)) : (sortEntries entries).Perm entries :=
  List.perm_insertionSort _ _

theorem sortEntries_sorted (entries : List (PyStr × β)) :
    (sortEntries entries).Pairwise fun a b ↦ a.1 ≤ b.1 := by
  have : Std.Total fun a b : PyStr × β ↦ a.1 ≤ b.1 := ⟨fun a b ↦ le_total a.1 b.1⟩
  have : IsTrans (PyStr × β) fun a b ↦ a.1 ≤ b.1 := ⟨fun _ _ _ ↦ le_trans⟩
  exact List.pairwise_insertionSort _ entries

/-- Sorting looks at keys only. -/
theorem sortEntries_map (f : β → γ) (entries : List (PyStr × β)) :
    sortEntries (entries.map (Prod.map id f)) = (sortEntries entries).map (Prod.map id f) :=
  (List.map_insertionSort (fun a b : PyStr × β ↦ a.1 ≤ b.1)
    (fun a b : PyStr × γ ↦ a.1 ≤ b.1) (Prod.map id f) entries fun _ _ _ _ ↦ Iff.rfl).symm

/-- Entries with distinct keys have one sorted arrangement. -/
theorem sortEntries_eq_of_perm {a b : List (PyStr × β)} (h : a.Perm b)
    (hkeys : (a.map Prod.fst).Nodup) :
    sortEntries a = sortEntries b := by
  have hperm : (sortEntries a).Perm (sortEntries b) :=
    ((sortEntries_perm a).trans h).trans (sortEntries_perm b).symm
  refine hperm.eq_of_pairwise ?_ (sortEntries_sorted a) (sortEntries_sorted b)
  intro x y hx hy hxy hyx
  have hxa : x ∈ a := (sortEntries_perm a).mem_iff.mp hx
  have hya : y ∈ a := h.mem_iff.mpr ((sortEntries_perm b).mem_iff.mp hy)
  exact List.inj_on_of_nodup_map hkeys hxa hya (le_antisymm hxy hyx)

/-- A key is looked up where it stands. -/
theorem lookup_of_mem {entries : List (PyStr × β)} (hkeys : (entries.map Prod.fst).Nodup)
    {entry : PyStr × β} (hmem : entry ∈ entries) : entries.lookup entry.1 = some entry.2 := by
  induction entries with
  | nil => cases hmem
  | cons head entries ih =>
    rw [List.map_cons, List.nodup_cons] at hkeys
    rcases List.mem_cons.mp hmem with rfl | hmem
    · rw [List.lookup_cons, beq_self_eq_true]
    · have hne : (entry.1 == head.1) = false := by
        rw [beq_eq_false_iff_ne]
        intro heq
        exact hkeys.1 (heq ▸ List.mem_map_of_mem hmem)
      rw [List.lookup_cons, hne, ih hkeys.2 hmem]

theorem mem_of_lookup {entries : List (PyStr × β)} {key : PyStr} {value : β}
    (h : entries.lookup key = some value) : (key, value) ∈ entries := by
  obtain ⟨front, back, rfl, -⟩ := List.lookup_eq_some_iff.mp h
  exact List.mem_append_right _ List.mem_cons_self

end SortEntries

namespace JsonValue

theorem sameEntries_iff {a b : List (PyStr × JsonValue)} :
    sameEntries a b = true ↔
      ∀ entry ∈ a, ∃ y, b.lookup entry.1 = some y ∧ same entry.2 y = true := by
  induction a with
  | nil => exact iff_of_true rfl (List.forall_mem_nil _)
  | cons entry a ih =>
    rw [sameEntries, Bool.and_eq_true, ih, List.forall_mem_cons]
    refine and_congr_left fun _ ↦ ?_
    cases hlookup : b.lookup entry.1 with
    | none => simp
    | some y => simp

theorem keys_map_sorted (entries : List (PyStr × JsonValue)) :
    (entries.map (Prod.map id sorted)).map Prod.fst = entries.map Prod.fst := by
  rw [List.map_map]
  rfl

/-- **Documents are the same exactly when they have one sorted form.** -/
theorem same_iff_sorted_eq {a b : JsonValue} (ha : keyed a = true) (hb : keyed b = true) :
    same a b = true ↔ sorted a = sorted b := by
  induction a using JsonValue.induction generalizing b with
  | null => cases b <;> simp [same, sorted]
  | bool | int | float | str => cases b <;> simp [same, sorted]
  | list items ih =>
    cases b with
    | list others =>
      simp only [keyed, keyedList_eq_all, List.all_eq_true] at ha hb
      rw [same, sorted, sorted, sortedList_eq_map, sortedList_eq_map, list.injEq]
      induction items generalizing others with
      | nil => cases others <;> simp [sameList]
      | cons item items ihItems =>
        cases others with
        | nil => simp [sameList]
        | cons other others =>
          rw [List.forall_mem_cons] at ih ha hb
          rw [sameList, Bool.and_eq_true, List.map_cons, List.map_cons, List.cons.injEq,
            ih.1 ha.1 hb.1, ihItems ih.2 others ha.2 hb.2]
    | _ => simp [same, sorted]
  | dict entries ih =>
    cases b with
    | dict others =>
      simp only [keyed, keyedEntries_eq_all, Bool.and_eq_true, decide_eq_true_eq,
        List.all_eq_true] at ha hb
      obtain ⟨hkeys, hvalues⟩ := ha
      obtain ⟨hkeys', hvalues'⟩ := hb
      have hnodup := hkeys
      rw [keys, ← keys_map_sorted] at hnodup
      rw [same, sorted, sorted, sortedEntries_eq_map, sortedEntries_eq_map, dict.injEq,
        Bool.and_eq_true, decide_eq_true_eq, sameEntries_iff]
      constructor
      · rintro ⟨hlength, hsame⟩
        -- as many entries, each of them among the others
        refine sortEntries_eq_of_perm ?_ hnodup
        refine List.Subperm.perm_of_length_le (List.subperm_of_subset hnodup.of_map ?_) ?_
        · intro mapped hmapped
          obtain ⟨entry, hentry, rfl⟩ := List.mem_map.mp hmapped
          obtain ⟨y, hlookup, hy⟩ := hsame entry hentry
          have hother := mem_of_lookup hlookup
          have hsorted := (ih entry hentry (hvalues _ hentry) (hvalues' _ hother)).mp hy
          exact List.mem_map.mpr ⟨_, hother, Prod.ext rfl hsorted.symm⟩
        · rw [List.length_map, List.length_map, hlength]
      · intro hsorted
        have hperm : (entries.map (Prod.map id sorted)).Perm (others.map (Prod.map id sorted)) :=
          (sortEntries_perm _).symm.trans (hsorted ▸ sortEntries_perm _)
        refine ⟨by simpa using hperm.length_eq, fun entry hentry ↦ ?_⟩
        obtain ⟨other, hother, heq⟩ := List.mem_map.mp
          (hperm.mem_iff.mp (List.mem_map_of_mem hentry))
        obtain ⟨hkey, hvalue⟩ := Prod.mk.inj heq
        refine ⟨other.2, ?_, ?_⟩
        · rw [← show other.1 = entry.1 from hkey]
          exact lookup_of_mem hkeys' hother
        · exact (ih entry hentry (hvalues _ hentry) (hvalues' _ hother)).mpr hvalue.symm
    | _ => simp [same, sorted]

end JsonValue

/-! ## Normal forms -/

/-- `CanonicalizationError` is raised. -/
def Refuses {β : Type} (result : Except Exn β) : Prop :=
  ∃ message, result = .error (.canonicalization message)

theorem Refuses.bind {β γ : Type} {result : Except Exn β} (h : Refuses result)
    (rest : β → Except Exn γ) : Refuses (result >>= rest) := by
  obtain ⟨message, rfl⟩ := h
  exact ⟨message, rfl⟩

section NormalForm

variable [UnicodeNormalization]

open UnicodeNormalization (nfc)

namespace JsonValue

mutual

/-- Every string and every key in NFC. -/
def nfcForm : JsonValue → JsonValue
  | .str s => .str (nfc s)
  | .list items => .list (nfcFormList items)
  | .dict entries => .dict (nfcFormEntries entries)
  | .null => .null
  | .bool b => .bool b
  | .int n => .int n
  | .float bits => .float bits

def nfcFormList : List JsonValue → List JsonValue
  | [] => []
  | item :: items => nfcForm item :: nfcFormList items

def nfcFormEntries : List (PyStr × JsonValue) → List (PyStr × JsonValue)
  | [] => []
  | (key, item) :: entries => (nfc key, nfcForm item) :: nfcFormEntries entries

end

@[simp] theorem nfcFormList_eq_map (items : List JsonValue) :
    nfcFormList items = items.map nfcForm := by
  induction items with
  | nil => rfl
  | cons item items ih => rw [nfcFormList, ih, List.map_cons]

@[simp] theorem nfcFormEntries_eq_map (entries : List (PyStr × JsonValue)) :
    nfcFormEntries entries = entries.map (Prod.map nfc nfcForm) := by
  induction entries with
  | nil => rfl
  | cons entry entries ih => rw [nfcFormEntries, ih, List.map_cons]; rfl

/-- The document has a normal form that `normalize` computes. -/
def Normalizable (v : JsonValue) : Prop := floatFree v = true ∧ keyed (nfcForm v) = true

end JsonValue

open JsonValue

theorem normalizeList_ok {items : List JsonValue}
    (h : ∀ item ∈ items, normalize item = .ok (nfcForm item)) :
    normalizeList items = .ok (items.map nfcForm) := by
  induction items with
  | nil => rfl
  | cons item items ih =>
    rw [List.forall_mem_cons] at h
    rw [normalizeList, h.1, ih h.2]
    rfl

/-- The keys seen so far and those to come have distinct NFCs. -/
theorem normalizeEntries_ok {entries : List (PyStr × JsonValue)} {seen : List PyStr}
    (h : ∀ entry ∈ entries, normalize entry.2 = .ok (nfcForm entry.2))
    (hkeys : (entries.map (nfc ·.1)).Nodup) (hseen : ∀ entry ∈ entries, nfc entry.1 ∉ seen) :
    normalizeEntries seen entries = .ok (entries.map (Prod.map nfc nfcForm)) := by
  induction entries generalizing seen with
  | nil => rfl
  | cons entry entries ih =>
    rw [List.forall_mem_cons] at h hseen
    rw [List.map_cons, List.nodup_cons] at hkeys
    have hrest : ∀ other ∈ entries, nfc other.1 ∉ nfc entry.1 :: seen := by
      intro other hother hmem
      rcases List.mem_cons.mp hmem with heq | hmem
      · exact hkeys.1 (heq ▸ List.mem_map_of_mem hother)
      · exact hseen.2 other hother hmem
    rw [normalizeEntries, if_neg hseen.1, h.1, ih h.2 hkeys.2 hrest]
    rfl

theorem normalizable_list {items : List JsonValue} :
    Normalizable (.list items) ↔ ∀ item ∈ items, Normalizable item := by
  simp only [Normalizable, floatFree, floatFreeList_eq_all, nfcForm, nfcFormList_eq_map, keyed,
    keyedList_eq_all, List.all_map, List.all_eq_true, Function.comp_apply, ← forall_and]

theorem normalizable_dict {entries : List (PyStr × JsonValue)} :
    Normalizable (.dict entries) ↔
      (entries.map (nfc ·.1)).Nodup ∧ ∀ entry ∈ entries, Normalizable entry.2 := by
  simp only [Normalizable, floatFree, floatFreeEntries_eq_all, nfcForm, nfcFormEntries_eq_map,
    keyed, keyedEntries_eq_all, List.all_map, List.map_map, Bool.and_eq_true, decide_eq_true_eq,
    List.all_eq_true, Function.comp_apply, Prod.map_snd, forall_and]
  exact and_left_comm

/-- **`normalize` computes the normal form** of a document that has one. -/
theorem normalize_ok {v : JsonValue} (h : Normalizable v) : normalize v = .ok (nfcForm v) := by
  induction v using JsonValue.induction with
  | null | bool | int | str => rfl
  | float => cases h.1
  | list items ih =>
    rw [normalizable_list] at h
    rw [normalize, normalizeList_ok fun item hitem ↦ ih item hitem (h item hitem), nfcForm,
      nfcFormList_eq_map]
    rfl
  | dict entries ih =>
    rw [normalizable_dict] at h
    have hentries : normalizeEntries [] entries = _ := normalizeEntries_ok
      (fun entry hentry ↦ ih entry hentry (h.2 entry hentry)) h.1 fun _ _ ↦ List.not_mem_nil
    rw [normalize, hentries, nfcForm, nfcFormEntries_eq_map]
    rfl

theorem normalizeList_refuses {items : List JsonValue}
    (h : ∀ item ∈ items, ¬Normalizable item → Refuses (normalize item))
    (hsome : ¬∀ item ∈ items, Normalizable item) : Refuses (normalizeList items) := by
  induction items with
  | nil => exact absurd (List.forall_mem_nil _) hsome
  | cons item items ih =>
    rw [List.forall_mem_cons] at h hsome
    rw [normalizeList]
    by_cases hitem : Normalizable item
    · rw [normalize_ok hitem]
      exact (ih h.2 fun hall ↦ hsome ⟨hitem, hall⟩).bind _
    · exact (h.1 hitem).bind _

theorem normalizeEntries_refuses {entries : List (PyStr × JsonValue)} {seen : List PyStr}
    (h : ∀ entry ∈ entries, ¬Normalizable entry.2 → Refuses (normalize entry.2))
    (hsome : ¬((entries.map (nfc ·.1)).Nodup ∧ (∀ entry ∈ entries, nfc entry.1 ∉ seen) ∧
      ∀ entry ∈ entries, Normalizable entry.2)) :
    Refuses (normalizeEntries seen entries) := by
  induction entries generalizing seen with
  | nil => exact absurd ⟨List.nodup_nil, List.forall_mem_nil _, List.forall_mem_nil _⟩ hsome
  | cons entry entries ih =>
    rw [List.forall_mem_cons] at h
    rw [normalizeEntries]
    by_cases hseen : nfc entry.1 ∈ seen
    · rw [if_pos hseen]
      exact ⟨_, rfl⟩
    · rw [if_neg hseen]
      by_cases hvalue : Normalizable entry.2
      · rw [normalize_ok hvalue]
        refine (ih h.2 ?_).bind _
        -- what the remaining entries avoid is what was seen and this key
        rintro ⟨hkeys, hfresh, hvalues⟩
        refine hsome ⟨List.nodup_cons.mpr ⟨?_, hkeys⟩, List.forall_mem_cons.mpr ⟨hseen, ?_⟩,
          List.forall_mem_cons.mpr ⟨hvalue, hvalues⟩⟩
        · intro hmem
          obtain ⟨other, hother, heq⟩ := List.mem_map.mp hmem
          exact hfresh other hother (heq ▸ List.mem_cons_self)
        · exact fun other hother hmem ↦ hfresh other hother (List.mem_cons_of_mem _ hmem)
      · exact (h.1 hvalue).bind _

/-- **`normalize` refuses** every other document. -/
theorem normalize_refuses {v : JsonValue} (h : ¬Normalizable v) : Refuses (normalize v) := by
  induction v using JsonValue.induction with
  | null | bool | int | str => exact absurd ⟨rfl, rfl⟩ h
  | float bits =>
    rw [normalize]
    split <;> exact ⟨_, rfl⟩
  | list items ih =>
    rw [normalizable_list] at h
    rw [normalize]
    exact (normalizeList_refuses ih h).bind _
  | dict entries ih =>
    rw [normalizable_dict] at h
    rw [normalize]
    refine (normalizeEntries_refuses ih ?_).bind _
    exact fun hall ↦ h ⟨hall.1, hall.2.2⟩

end NormalForm

end ThrevoActions
