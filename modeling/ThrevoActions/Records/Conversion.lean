import Mathlib.Data.List.Forall2
import Mathlib.Data.List.Nodup

/-!
# Conversions of records

A conversion rewrites a value or refuses it. `Conversion P Q R f` is what is asked of one: of a
value in `P` that it rewrites, the result is related to it by `R` and is left alone from then on,
and what it refuses is in `Q`. Conversions of the fields of a record, run one after another over its
entries, make up a conversion of the record (`Conversion.atKeys`), as conversions of the items make
up one of a list (`Conversion.mapM`). No two entries of a record and no two rules have one key.
-/

namespace Records

variable {ε κ ν : Type}

/-- A function that rewrites along `R`, once and for all, and refuses only what is in `Q`. -/
structure Conversion (P Q : ν → Prop) (R : ν → ν → Prop) (f : ν → Except ε ν) : Prop where
  relates : ∀ {v w}, P v → f v = .ok w → R v w
  settles : ∀ {v w}, P v → f v = .ok w → f w = .ok w
  refuses : ∀ {v e}, P v → f v = .error e → Q v

theorem Conversion.mono {P P' Q Q' : ν → Prop} {R R' : ν → ν → Prop} {f : ν → Except ε ν}
    (h : Conversion P Q R f) (hP : ∀ v, P' v → P v) (hQ : ∀ v, P' v → Q v → Q' v)
    (hR : ∀ v w, P' v → R v w → R' v w) : Conversion P' Q' R' f where
  relates hv hw := hR _ _ hv (h.relates (hP _ hv) hw)
  settles hv hw := h.settles (hP _ hv) hw
  refuses hv he := hQ _ hv (h.refuses (hP _ hv) he)

/-- Only what is converted, and what it becomes, matters to a conversion. -/
theorem Conversion.congr {P Q : ν → Prop} {R : ν → ν → Prop} {f g : ν → Except ε ν}
    (h : Conversion P Q R f) (hP : ∀ v, P v → g v = f v) (hR : ∀ v w, P v → R v w → g w = f w) :
    Conversion P Q R g where
  relates hv hw := h.relates hv (hP _ hv ▸ hw)
  settles := by
    intro v w hv hw
    rw [hP v hv] at hw
    rw [hR v w hv (h.relates hv hw), h.settles hv hw]
  refuses hv he := h.refuses hv (hP _ hv ▸ he)

/-! ## Lists -/

theorem forall₂_trans {α : Type} {A B C : α → α → Prop} (h : ∀ a b c, A a b → B b c → C a c)
    {as bs cs : List α} (hA : List.Forall₂ A as bs) (hB : List.Forall₂ B bs cs) :
    List.Forall₂ C as cs := by
  induction hA generalizing cs with
  | nil =>
    cases hB
    exact .nil
  | cons hab _ ih =>
    cases hB with
    | cons hbc hrest => exact .cons (h _ _ _ hab hbc) (ih hrest)

theorem exists_of_mem_right {α : Type} {R : α → α → Prop} {as bs : List α}
    (h : List.Forall₂ R as bs) {b : α} (hb : b ∈ bs) : ∃ a ∈ as, R a b := by
  induction h with
  | nil => cases hb
  | @cons a c _ _ hac _ ih =>
    rcases List.mem_cons.mp hb with rfl | hb
    · exact ⟨a, .head _, hac⟩
    · obtain ⟨d, hd, hdb⟩ := ih hb
      exact ⟨d, .tail _ hd, hdb⟩

theorem mapM_cons_ok {f : ν → Except ε ν} {v : ν} {vs ws : List ν}
    (h : (v :: vs).mapM f = .ok ws) : ∃ w rest, f v = .ok w ∧ vs.mapM f = .ok rest ∧
      ws = w :: rest := by
  rw [List.mapM_cons] at h
  cases hv : f v with
  | error e =>
    rw [hv] at h
    cases h
  | ok w =>
    cases hvs : vs.mapM f with
    | error e =>
      rw [hv, hvs] at h
      cases h
    | ok rest =>
      rw [hv, hvs] at h
      exact ⟨w, rest, rfl, rfl, (Except.ok.inj h).symm⟩

theorem mapM_cons_of_ok {f : ν → Except ε ν} {v w : ν} {vs ws : List ν} (hv : f v = .ok w)
    (hvs : vs.mapM f = .ok ws) : (v :: vs).mapM f = .ok (w :: ws) := by
  rw [List.mapM_cons, hv, hvs]
  rfl

theorem mapM_cons_error {f : ν → Except ε ν} {v : ν} {vs : List ν} {e : ε}
    (h : (v :: vs).mapM f = .error e) : f v = .error e ∨ vs.mapM f = .error e := by
  rw [List.mapM_cons] at h
  cases hv : f v with
  | error d =>
    rw [hv] at h
    exact .inl (congrArg Except.error (Except.error.inj h))
  | ok w =>
    cases hvs : vs.mapM f with
    | error d =>
      rw [hv, hvs] at h
      exact .inr (congrArg Except.error (Except.error.inj h))
    | ok rest =>
      rw [hv, hvs] at h
      cases h

/-- A list is converted item by item. -/
theorem Conversion.mapM {P Q : ν → Prop} {R : ν → ν → Prop} {f : ν → Except ε ν}
    (h : Conversion P Q R f) :
    Conversion (fun vs ↦ ∀ v ∈ vs, P v) (fun vs ↦ ∃ v ∈ vs, Q v) (List.Forall₂ R) (List.mapM f) where
  relates := by
    intro vs ws hP hok
    induction vs generalizing ws with
    | nil =>
      cases hok
      exact .nil
    | cons v vs ih =>
      obtain ⟨w, rest, hv, hvs, rfl⟩ := mapM_cons_ok hok
      exact .cons (h.relates (hP v (.head _)) hv) (ih (fun u hu ↦ hP u (.tail _ hu)) hvs)
  settles := by
    intro vs ws hP hok
    induction vs generalizing ws with
    | nil =>
      cases hok
      rfl
    | cons v vs ih =>
      obtain ⟨w, rest, hv, hvs, rfl⟩ := mapM_cons_ok hok
      exact mapM_cons_of_ok (h.settles (hP v (.head _)) hv)
        (ih (fun u hu ↦ hP u (.tail _ hu)) hvs)
  refuses := by
    intro vs e hP herror
    induction vs with
    | nil => cases herror
    | cons v vs ih =>
      rcases mapM_cons_error herror with hv | hvs
      · exact ⟨v, .head _, h.refuses (hP v (.head _)) hv⟩
      · obtain ⟨u, hu, hQ⟩ := ih (fun u hu ↦ hP u (.tail _ hu)) hvs
        exact ⟨u, .tail _ hu, hQ⟩

/-! ## Records -/

theorem keys_eq {R : κ × ν → κ × ν → Prop} (hR : ∀ entry entry', R entry entry' → entry'.1 = entry.1)
    {entries entries' : List (κ × ν)} (h : List.Forall₂ R entries entries') :
    entries'.map Prod.fst = entries.map Prod.fst := by
  induction h with
  | nil => rfl
  | cons hentry _ ih => rw [List.map_cons, List.map_cons, ih, hR _ _ hentry]

section Keyed

variable [DecidableEq κ]

/-- Rewrites the value of the first entry of the key, if there is one. -/
def atKey (key : κ) (f : ν → Except ε ν) : List (κ × ν) → Except ε (List (κ × ν))
  | [] => .ok []
  | entry :: entries =>
    if entry.1 = key then (f entry.2).map fun value ↦ (entry.1, value) :: entries
    else (atKey key f entries).map (entry :: ·)

/-- Rewrites one key after another. -/
def atKeys : List (κ × (ν → Except ε ν)) → List (κ × ν) → Except ε (List (κ × ν))
  | [], entries => .ok entries
  | rule :: rules, entries => (atKey rule.1 rule.2 entries).bind (atKeys rules)

/-- What rewriting at the key makes of one entry. -/
def RewrittenAt (key : κ) (f : ν → Except ε ν) (entry entry' : κ × ν) : Prop :=
  entry'.1 = entry.1 ∧ if entry.1 = key then f entry.2 = .ok entry'.2 else entry'.2 = entry.2

theorem rewrittenAt_of_ne {key : κ} {f : ν → Except ε ν} {entry : κ × ν} (h : entry.1 ≠ key) :
    RewrittenAt key f entry entry := ⟨rfl, by rw [if_neg h]⟩

theorem forall₂_rewrittenAt_self {key : κ} {f : ν → Except ε ν} {entries : List (κ × ν)}
    (h : key ∉ entries.map Prod.fst) : List.Forall₂ (RewrittenAt key f) entries entries :=
  List.forall₂_same.mpr fun _ hentry ↦ rewrittenAt_of_ne fun heq ↦
    h (heq ▸ List.mem_map_of_mem hentry)

theorem atKey_ok {key : κ} {f : ν → Except ε ν} {entries entries' : List (κ × ν)}
    (hkeys : (entries.map Prod.fst).Nodup) (h : atKey key f entries = .ok entries') :
    List.Forall₂ (RewrittenAt key f) entries entries' := by
  induction entries generalizing entries' with
  | nil =>
    cases h
    exact .nil
  | cons entry entries ih =>
    rw [List.map_cons, List.nodup_cons] at hkeys
    rw [atKey] at h
    split_ifs at h with hkey
    · cases hvalue : f entry.2 with
      | error e =>
        rw [hvalue] at h
        cases h
      | ok value =>
        rw [hvalue] at h
        cases h
        refine .cons ⟨rfl, ?_⟩ (forall₂_rewrittenAt_self (hkey ▸ hkeys.1))
        rw [if_pos hkey]
        exact hvalue
    · cases hrest : atKey key f entries with
      | error e =>
        rw [hrest] at h
        cases h
      | ok rest =>
        rw [hrest] at h
        cases h
        exact .cons (rewrittenAt_of_ne hkey) (ih hkeys.2 hrest)

theorem atKey_error {key : κ} {f : ν → Except ε ν} {entries : List (κ × ν)} {e : ε}
    (h : atKey key f entries = .error e) : ∃ entry ∈ entries, entry.1 = key ∧
      f entry.2 = .error e := by
  induction entries with
  | nil => cases h
  | cons entry entries ih =>
    rw [atKey] at h
    split_ifs at h with hkey
    · cases hvalue : f entry.2 with
      | error d =>
        rw [hvalue] at h
        cases h
        exact ⟨entry, .head _, hkey, hvalue⟩
      | ok value =>
        rw [hvalue] at h
        cases h
    · cases hrest : atKey key f entries with
      | error d =>
        rw [hrest] at h
        cases h
        obtain ⟨found, hfound, hfoundKey, herror⟩ := ih hrest
        exact ⟨found, .tail _ hfound, hfoundKey, herror⟩
      | ok rest =>
        rw [hrest] at h
        cases h

theorem atKey_self {key : κ} {f : ν → Except ε ν} {entries : List (κ × ν)}
    (h : ∀ entry ∈ entries, entry.1 = key → f entry.2 = .ok entry.2) :
    atKey key f entries = .ok entries := by
  induction entries with
  | nil => rfl
  | cons entry entries ih =>
    rw [atKey]
    split_ifs with hkey
    · rw [h entry (.head _) hkey]
      rfl
    · rw [ih fun found hfound ↦ h found (.tail _ hfound)]
      rfl

theorem atKeys_singleton (rule : κ × (ν → Except ε ν)) (entries : List (κ × ν)) :
    atKeys [rule] entries = atKey rule.1 rule.2 entries := by
  rw [atKeys]
  cases atKey rule.1 rule.2 entries <;> rfl

theorem atKeys_self {rules : List (κ × (ν → Except ε ν))} {entries : List (κ × ν)}
    (h : ∀ rule ∈ rules, ∀ entry ∈ entries, entry.1 = rule.1 → rule.2 entry.2 = .ok entry.2) :
    atKeys rules entries = .ok entries := by
  induction rules with
  | nil => rfl
  | cons rule rules ih =>
    rw [atKeys, atKey_self (h rule (.head _))]
    exact ih fun other hother ↦ h other (.tail _ hother)

/-- What the rules make of one entry: only the rule of its key matters. -/
def Rewritten (rules : List (κ × (ν → Except ε ν))) (entry entry' : κ × ν) : Prop :=
  entry'.1 = entry.1 ∧
    (∀ rule ∈ rules, rule.1 = entry.1 → rule.2 entry.2 = .ok entry'.2) ∧
    (entry.1 ∉ rules.map Prod.fst → entry'.2 = entry.2)

/-- A rule acts on an entry before the later ones, which have other keys. -/
theorem RewrittenAt.trans {rule : κ × (ν → Except ε ν)} {rules : List (κ × (ν → Except ε ν))}
    (hrule : rule.1 ∉ rules.map Prod.fst) {a b c : κ × ν} (hab : RewrittenAt rule.1 rule.2 a b)
    (hbc : Rewritten rules b c) : Rewritten (rule :: rules) a c := by
  obtain ⟨hkey, hvalue⟩ := hab
  obtain ⟨hkey', hrules, hother⟩ := hbc
  refine ⟨hkey'.trans hkey, fun later hlater hlaterKey ↦ ?_, fun hnone ↦ ?_⟩
  · rcases List.mem_cons.mp hlater with rfl | hlater
    · rw [if_pos hlaterKey.symm] at hvalue
      rw [hother (hkey ▸ hlaterKey ▸ hrule), hvalue]
    · have hne : a.1 ≠ rule.1 := fun heq ↦
        hrule (heq ▸ hlaterKey ▸ List.mem_map_of_mem hlater)
      rw [if_neg hne] at hvalue
      rw [← hvalue]
      exact hrules later hlater (hlaterKey.trans hkey.symm)
  · rw [List.map_cons, List.mem_cons, not_or] at hnone
    rw [if_neg hnone.1] at hvalue
    rw [hother (hkey ▸ hnone.2), hvalue]

theorem atKeys_ok {rules : List (κ × (ν → Except ε ν))} (hrules : (rules.map Prod.fst).Nodup)
    {entries entries' : List (κ × ν)} (hkeys : (entries.map Prod.fst).Nodup)
    (h : atKeys rules entries = .ok entries') : List.Forall₂ (Rewritten rules) entries entries' := by
  induction rules generalizing entries with
  | nil =>
    cases h
    exact List.forall₂_same.mpr fun entry _ ↦ ⟨rfl, by simp, fun _ ↦ rfl⟩
  | cons rule rules ih =>
    rw [List.map_cons, List.nodup_cons] at hrules
    rw [atKeys] at h
    cases hfirst : atKey rule.1 rule.2 entries with
    | error e =>
      rw [hfirst] at h
      cases h
    | ok between =>
      rw [hfirst] at h
      have hstep := atKey_ok hkeys hfirst
      have hbetween : (between.map Prod.fst).Nodup := by
        rw [keys_eq (fun _ _ hentry ↦ hentry.1) hstep]
        exact hkeys
      exact forall₂_trans (fun _ _ _ hab hbc ↦ hab.trans hrules.1 hbc) hstep
        (ih hrules.2 hbetween h)

/-- What is refused was there before any rule ran. -/
theorem atKeys_error {rules : List (κ × (ν → Except ε ν))} (hrules : (rules.map Prod.fst).Nodup)
    {entries : List (κ × ν)} (hkeys : (entries.map Prod.fst).Nodup) {e : ε}
    (h : atKeys rules entries = .error e) :
    ∃ rule ∈ rules, ∃ entry ∈ entries, entry.1 = rule.1 ∧ rule.2 entry.2 = .error e := by
  induction rules generalizing entries with
  | nil => cases h
  | cons rule rules ih =>
    rw [List.map_cons, List.nodup_cons] at hrules
    rw [atKeys] at h
    cases hfirst : atKey rule.1 rule.2 entries with
    | error d =>
      rw [hfirst] at h
      cases h
      exact ⟨rule, .head _, atKey_error hfirst⟩
    | ok between =>
      rw [hfirst] at h
      have hstep := atKey_ok hkeys hfirst
      have hbetween : (between.map Prod.fst).Nodup := by
        rw [keys_eq (fun _ _ hentry ↦ hentry.1) hstep]
        exact hkeys
      obtain ⟨later, hlater, entry', hentry', hkey, herror⟩ := ih hrules.2 hbetween h
      obtain ⟨entry, hentry, hsame, hvalue⟩ := exists_of_mem_right hstep hentry'
      have hne : entry.1 ≠ rule.1 := fun heq ↦
        hrules.1 (heq ▸ hsame ▸ hkey ▸ List.mem_map_of_mem hlater)
      rw [if_neg hne] at hvalue
      exact ⟨later, .tail _ hlater, entry, hentry, hsame ▸ hkey, hvalue ▸ herror⟩

/-- Conversions of the fields, one key after another, convert the record. -/
theorem Conversion.atKeys {rules : List (κ × (ν → Except ε ν))} {P Q : κ → ν → Prop}
    {R : κ → ν → ν → Prop} (hrules : (rules.map Prod.fst).Nodup)
    (hconvert : ∀ rule ∈ rules, Conversion (P rule.1) (Q rule.1) (R rule.1) rule.2)
    (hother : ∀ key ∉ rules.map Prod.fst, ∀ v, R key v v) :
    Conversion
      (fun entries ↦ (entries.map Prod.fst).Nodup ∧ ∀ entry ∈ entries, P entry.1 entry.2)
      (fun entries ↦ ∃ entry ∈ entries, Q entry.1 entry.2)
      (List.Forall₂ fun entry entry' ↦ entry'.1 = entry.1 ∧ R entry.1 entry.2 entry'.2)
      (Records.atKeys rules) where
  relates := by
    rintro entries entries' ⟨hkeys, hP⟩ hok
    refine ((List.forall₂_and_left _ _).mpr ⟨hP, atKeys_ok hrules hkeys hok⟩).imp ?_
    rintro entry entry' ⟨hentry, hkey, hrewritten, hsame⟩
    refine ⟨hkey, ?_⟩
    by_cases hmem : entry.1 ∈ rules.map Prod.fst
    · obtain ⟨rule, hrule, hruleKey⟩ := List.mem_map.mp hmem
      rw [← hruleKey] at hentry ⊢
      exact (hconvert rule hrule).relates hentry (hrewritten rule hrule hruleKey)
    · rw [hsame hmem]
      exact hother _ hmem _
  settles := by
    rintro entries entries' ⟨hkeys, hP⟩ hok
    refine atKeys_self fun rule hrule entry' hentry' hkey' ↦ ?_
    obtain ⟨entry, hentry, hkey, hrewritten, -⟩ :=
      exists_of_mem_right (atKeys_ok hrules hkeys hok) hentry'
    have hruleKey : rule.1 = entry.1 := hkey'.symm.trans hkey
    exact (hconvert rule hrule).settles (hruleKey ▸ hP entry hentry)
      (hrewritten rule hrule hruleKey)
  refuses := by
    rintro entries e ⟨hkeys, hP⟩ herror
    obtain ⟨rule, hrule, entry, hentry, hkey, hvalue⟩ := atKeys_error hrules hkeys herror
    have hQ := (hconvert rule hrule).refuses (hkey ▸ hP entry hentry) hvalue
    exact ⟨entry, hentry, hkey ▸ hQ⟩

end Keyed

end Records
