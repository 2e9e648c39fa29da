import Mathlib.Data.List.Induction

/-! # Registers of visits

A register keeps one item for every visitor, in the order in which they came
first, with the stamps of the first and of the latest visit.  Recording a visit
either changes the latest stamp of an item or adds an item at the end.

`Kept` says what a register of a list of visits is, without recording anything:
the distinct visitors in the order of their first visits, each with the first and
the last of its stamps.  Recording the visits one after the other gives exactly
that register (`kept_ofVisits`).

A ledger has a register on every shelf that has been visited.  The visits that
are news, the first of a key on its shelf, are the distinct pairs of the list
(`news_eq`). -/
namespace Register
variable {κ δ : Type*}

structure Item (κ δ : Type*) where
  key : κ
  first : δ
  last : δ

def keys (items : List (Item κ δ)) : List κ := items.map Item.key

/-- A later visit. -/
def Item.visited (stamp : δ) (item : Item κ δ) : Item κ δ := { item with last := stamp }

theorem keys_modify (items : List (Item κ δ)) (i : Nat) (stamp : δ) :
    keys (items.modify i (Item.visited stamp)) = keys items := by
  refine List.ext_getElem? fun j => ?_
  rw [keys, keys, List.getElem?_map, List.getElem?_map, List.getElem?_modify]
  by_cases hij : i = j
  · cases items[j]? <;> simp [hij, Item.visited]
  · simp [hij]

section
variable [DecidableEq κ]

/-- One more visit. -/
def record (items : List (Item κ δ)) (visit : κ × δ) : List (Item κ δ) :=
  match (keys items).idxOf? visit.1 with
  | some i => items.modify i (Item.visited visit.2)
  | none => items ++ [⟨visit.1, visit.2, visit.2⟩]

def ofVisits (visits : List (κ × δ)) : List (Item κ δ) := visits.foldl record []

/-- The stamps of one visitor. -/
def stamps (visits : List (κ × δ)) (key : κ) : List δ :=
  (visits.filter fun visit => visit.1 = key).map Prod.snd

theorem record_of_notMem {items : List (Item κ δ)} {visit : κ × δ} (h : visit.1 ∉ keys items) :
    record items visit = items ++ [⟨visit.1, visit.2, visit.2⟩] := by
  rw [record, List.idxOf?_eq_none_iff.mpr h]

theorem record_of_idxOf {items : List (Item κ δ)} {visit : κ × δ} {i : Nat}
    (h : (keys items).idxOf? visit.1 = some i) :
    record items visit = items.modify i (Item.visited visit.2) := by
  rw [record, h]

theorem keys_record (items : List (Item κ δ)) (visit : κ × δ) :
    keys (record items visit) =
      if visit.1 ∈ keys items then keys items else keys items ++ [visit.1] := by
  by_cases h : visit.1 ∈ keys items
  · obtain ⟨i, hi⟩ := Option.isSome_iff_exists.mp (List.isSome_idxOf?.mpr h)
    rw [record_of_idxOf hi, keys_modify, if_pos h]
  · rw [record_of_notMem h, if_neg h, keys, List.map_append]
    rfl

/-- Nobody is forgotten. -/
theorem mem_keys_record {items : List (Item κ δ)} {visit : κ × δ} {key : κ} :
    key ∈ keys (record items visit) ↔ key = visit.1 ∨ key ∈ keys items := by
  rw [keys_record]
  split
  · rename_i h
    exact ⟨Or.inr, fun hk => hk.elim (fun he => he ▸ h) id⟩
  · rw [List.mem_append, List.mem_singleton, or_comm]

/-! ### Other names for visitors and stamps -/

section Rename
variable {κ' δ' : Type*} [DecidableEq κ'] {f : κ → κ'}

/-- The item under other names. -/
def Item.map (f : κ → κ') (g : δ → δ') (item : Item κ δ) : Item κ' δ' :=
  ⟨f item.key, g item.first, g item.last⟩

theorem idxOf?_map {α β : Type*} [BEq α] [LawfulBEq α] [BEq β] [LawfulBEq β] {f : α → β}
    (hf : Function.Injective f) (l : List α) (a : α) :
    (l.map f).idxOf? (f a) = l.idxOf? a := by
  induction l with
  | nil => rfl
  | cons b l ih =>
    rw [List.map_cons, List.idxOf?_cons, List.idxOf?_cons, ih]
    by_cases h : b = a
    · simp [h]
    · have h' : f b ≠ f a := fun he => h (hf he)
      simp [h, h']

omit [DecidableEq κ] [DecidableEq κ'] in
theorem keys_map (f : κ → κ') (g : δ → δ') (items : List (Item κ δ)) :
    keys (items.map (Item.map f g)) = (keys items).map f := by
  simp [keys, Item.map]

/-- Visits may be recorded before or after they are renamed. -/
theorem record_map (hf : Function.Injective f) (g : δ → δ') (items : List (Item κ δ))
    (visit : κ × δ) :
    (record items visit).map (Item.map f g) =
      record (items.map (Item.map f g)) (f visit.1, g visit.2) := by
  match h : (keys items).idxOf? visit.1 with
  | some i =>
    have h' : (keys (items.map (Item.map f g))).idxOf? (f visit.1) = some i := by
      rw [keys_map, idxOf?_map hf, h]
    rw [record_of_idxOf h, record_of_idxOf h']
    refine List.ext_getElem? fun j => ?_
    rw [List.getElem?_map, List.getElem?_modify, List.getElem?_modify, List.getElem?_map]
    by_cases hij : i = j
    · cases items[j]? <;> simp [hij, Item.map, Item.visited]
    · simp [hij]
  | none =>
    have h' : f visit.1 ∉ keys (items.map (Item.map f g)) := by
      rw [← List.idxOf?_eq_none_iff, keys_map, idxOf?_map hf, h]
    rw [record_of_notMem (List.idxOf?_eq_none_iff.mp h), record_of_notMem h', List.map_append]
    rfl

theorem ofVisits_map (hf : Function.Injective f) (g : δ → δ') (visits : List (κ × δ)) :
    (ofVisits visits).map (Item.map f g) = ofVisits (visits.map (Prod.map f g)) := by
  induction visits using List.reverseRecOn with
  | nil => rfl
  | append_singleton visits visit ih =>
    rw [ofVisits, List.foldl_append, List.map_append, ofVisits, List.foldl_append, ← ofVisits,
      ← ofVisits, ← ih]
    exact record_map hf g _ visit

end Rename

/-! ### The register of a list of visits -/

section EraseDups
variable {α : Type*} [BEq α] [LawfulBEq α] {l : List α} {a : α}

theorem eraseDups_concat_of_mem (h : a ∈ l) : (l ++ [a]).eraseDups = l.eraseDups := by
  rw [List.eraseDups_append, List.removeAll, List.filter_cons_of_neg (by simpa using h)]
  simp

theorem eraseDups_concat_of_notMem (h : a ∉ l) : (l ++ [a]).eraseDups = l.eraseDups ++ [a] := by
  rw [List.eraseDups_append, List.removeAll, List.filter_cons_of_pos (by simpa using h)]
  simp [List.eraseDups_cons]

/-- The distinct elements of a list may be renamed before or after they are picked. -/
theorem eraseDups_map {β : Type*} [BEq β] [LawfulBEq β] {f : α → β} (hf : Function.Injective f)
    (l : List α) : (l.map f).eraseDups = l.eraseDups.map f := by
  induction l using List.reverseRecOn with
  | nil => rfl
  | append_singleton l a ih =>
    rw [List.map_append, List.map_singleton]
    by_cases h : a ∈ l
    · rw [eraseDups_concat_of_mem h, eraseDups_concat_of_mem (List.mem_map_of_mem h), ih]
    · have h' : f a ∉ l.map f := by simpa [hf.eq_iff] using h
      rw [eraseDups_concat_of_notMem h, eraseDups_concat_of_notMem h', ih, List.map_append,
        List.map_singleton]

theorem length_eraseDups_le (l : List α) : l.eraseDups.length ≤ l.length := by
  induction l using List.reverseRecOn with
  | nil => exact Nat.le_refl _
  | append_singleton l a ih =>
    rw [List.length_append]
    by_cases h : a ∈ l
    · rw [eraseDups_concat_of_mem h]
      exact Nat.le_add_right_of_le ih
    · rw [eraseDups_concat_of_notMem h, List.length_append]
      exact Nat.add_le_add_right ih _

theorem nodup_eraseDups (l : List α) : l.eraseDups.Nodup := by
  induction l using List.reverseRecOn with
  | nil => exact List.nodup_nil
  | append_singleton l a ih =>
    by_cases h : a ∈ l
    · rw [eraseDups_concat_of_mem h]
      exact ih
    · rw [eraseDups_concat_of_notMem h, List.nodup_append]
      refine ⟨ih, by simp, fun b hb c hc => ?_⟩
      rw [List.mem_singleton.mp hc]
      rintro rfl
      exact h (List.mem_eraseDups.mp hb)

theorem eraseDups_of_nodup (h : l.Nodup) : l.eraseDups = l := by
  induction l using List.reverseRecOn with
  | nil => rfl
  | append_singleton l a ih =>
    obtain ⟨hl, -, hne⟩ := List.nodup_append.mp h
    rw [eraseDups_concat_of_notMem fun ha => hne a ha a List.mem_cons_self rfl, ih hl]

end EraseDups

theorem stamps_concat (visits : List (κ × δ)) (visit : κ × δ) (key : κ) :
    stamps (visits ++ [visit]) key =
      if visit.1 = key then stamps visits key ++ [visit.2] else stamps visits key := by
  rw [stamps, List.filter_append, List.map_append, ← stamps]
  by_cases h : visit.1 = key
  · simp [h]
  · simp [h]

theorem stamps_eq_nil {visits : List (κ × δ)} {key : κ} (h : key ∉ visits.map Prod.fst) :
    stamps visits key = [] := by
  rw [stamps, List.map_eq_nil_iff, List.filter_eq_nil_iff]
  intro visit hvisit he
  exact h (List.mem_map.mpr ⟨visit, hvisit, of_decide_eq_true he⟩)

/-- **What a register of these visits is.** -/
structure Kept (visits : List (κ × δ)) (items : List (Item κ δ)) : Prop where
  keys : keys items = (visits.map Prod.fst).eraseDups
  first : ∀ item ∈ items, (stamps visits item.key).head? = some item.first
  last : ∀ item ∈ items, (stamps visits item.key).getLast? = some item.last

variable {visits : List (κ × δ)} {items : List (Item κ δ)}

theorem Kept.mem_keys (h : Kept visits items) {key : κ} :
    key ∈ Register.keys items ↔ key ∈ visits.map Prod.fst := by
  rw [h.keys, List.mem_eraseDups]

theorem mem_of_mem_stamps {key : κ} {stamp : δ} (h : stamp ∈ stamps visits key) :
    stamp ∈ visits.map Prod.snd := by
  obtain ⟨visit, hvisit, rfl⟩ := List.mem_map.mp h
  exact List.mem_map_of_mem (List.mem_filter.mp hvisit).1

/-- An item is made of what the visits bring. -/
theorem Kept.of_visits (h : Kept visits items) {item : Item κ δ} (hitem : item ∈ items) :
    item.key ∈ visits.map Prod.fst ∧ item.first ∈ visits.map Prod.snd ∧
      item.last ∈ visits.map Prod.snd :=
  ⟨h.mem_keys.mp (List.mem_map_of_mem hitem),
    mem_of_mem_stamps (List.mem_of_mem_head? (h.first item hitem)),
    mem_of_mem_stamps (List.mem_of_getLast? (h.last item hitem))⟩

theorem kept_nil : Kept ([] : List (κ × δ)) [] := ⟨rfl, by simp, by simp⟩

/-- The first visit of a visitor. -/
theorem Kept.add (h : Kept visits items) {visit : κ × δ} (hnew : visit.1 ∉ Register.keys items) :
    Kept (visits ++ [visit]) (items ++ [⟨visit.1, visit.2, visit.2⟩]) := by
  have hvisits : visit.1 ∉ visits.map Prod.fst := fun hmem => hnew (h.mem_keys.mpr hmem)
  have hstamps : ∀ item ∈ items,
      stamps (visits ++ [visit]) item.key = stamps visits item.key := by
    intro item hitem
    have hne : visit.1 ≠ item.key := fun he =>
      hnew (List.mem_map.mpr ⟨item, hitem, he.symm⟩)
    rw [stamps_concat, if_neg hne]
  have hone : stamps (visits ++ [visit]) visit.1 = [visit.2] := by
    rw [stamps_concat, if_pos rfl, stamps_eq_nil hvisits, List.nil_append]
  refine ⟨?_, ?_, ?_⟩
  · rw [Register.keys, List.map_append, ← Register.keys, h.keys, List.map_append,
      List.map_singleton,
      List.map_singleton, eraseDups_concat_of_notMem hvisits]
  all_goals
    intro item hitem
    rcases List.mem_append.mp hitem with hold | hitem
    · rw [hstamps item hold]
      first | exact h.first item hold | exact h.last item hold
    · rw [List.mem_singleton.mp hitem, hone]
      rfl

/-- A later visit. -/
theorem Kept.visit (h : Kept visits items) {visit : κ × δ} {i : Nat}
    (hi : (Register.keys items).idxOf? visit.1 = some i) :
    Kept (visits ++ [visit]) (items.modify i (Item.visited visit.2)) := by
  obtain ⟨hlt, hkey, -⟩ := List.idxOf?_eq_some_iff.mp hi
  have hmem : visit.1 ∈ visits.map Prod.fst := h.mem_keys.mp (hkey ▸ List.getElem_mem hlt)
  have hnodup : (Register.keys items).Nodup := h.keys ▸ nodup_eraseDups _
  have hi' : (Register.keys items)[i]? = some visit.1 := by rw [List.getElem?_eq_getElem hlt, hkey]
  -- every item is the one of the visitor, or has another key
  have hcases : ∀ item ∈ items.modify i (Item.visited visit.2),
      (∃ old ∈ items, old.key = visit.1 ∧ item = old.visited visit.2) ∨
        (item ∈ items ∧ visit.1 ≠ item.key) := by
    intro item hitem
    obtain ⟨j, hj⟩ := List.mem_iff_getElem?.mp hitem
    rw [List.getElem?_modify] at hj
    obtain ⟨old, hold, rfl⟩ := Option.map_eq_some_iff.mp hj
    have hkeys : (Register.keys items)[j]? = some old.key := by
      rw [Register.keys, List.getElem?_map, hold]
      rfl
    by_cases hij : i = j
    · rw [if_pos hij]
      exact .inl ⟨old, List.mem_of_getElem? hold,
        Option.some.inj (hkeys.symm.trans (hij ▸ hi')), rfl⟩
    · rw [if_neg hij]
      refine .inr ⟨List.mem_of_getElem? hold, fun he => hij ?_⟩
      exact (List.getElem?_inj hlt hnodup).mp (hi'.trans (he ▸ hkeys.symm))
  refine ⟨?_, ?_, ?_⟩
  · rw [keys_modify, h.keys, List.map_append, List.map_singleton,
      eraseDups_concat_of_mem hmem]
  · intro item hitem
    rcases hcases item hitem with ⟨old, hold, he, rfl⟩ | ⟨hold, hne⟩
    · have hfirst := h.first old hold
      rw [he] at hfirst
      rw [Item.visited, he, stamps_concat, if_pos rfl, List.head?_append, hfirst]
      rfl
    · rw [stamps_concat, if_neg hne]
      exact h.first item hold
  · intro item hitem
    rcases hcases item hitem with ⟨old, hold, he, rfl⟩ | ⟨hold, hne⟩
    · rw [Item.visited, he, stamps_concat, if_pos rfl, List.getLast?_concat]
    · rw [stamps_concat, if_neg hne]
      exact h.last item hold

theorem Kept.record (h : Kept visits items) (visit : κ × δ) :
    Kept (visits ++ [visit]) (record items visit) := by
  match hi : (Register.keys items).idxOf? visit.1 with
  | some i =>
    rw [record_of_idxOf hi]
    exact h.visit hi
  | none =>
    have hnew := List.idxOf?_eq_none_iff.mp hi
    rw [record_of_notMem hnew]
    exact h.add hnew

/-- **Recording the visits gives their register.** -/
theorem kept_ofVisits (visits : List (κ × δ)) : Kept visits (ofVisits visits) := by
  induction visits using List.reverseRecOn with
  | nil => exact kept_nil
  | append_singleton visits visit ih =>
    rw [ofVisits, List.foldl_append, ← ofVisits]
    exact ih.record visit

end

/-! ### Ledgers -/

/-- A visit to a shelf, by a visitor who need not be the key of the item. -/
structure Visit (ρ σ κ δ : Type*) where
  who : ρ
  shelf : σ
  key : κ
  stamp : δ

/-- The registers on the shelves that have been visited. -/
abbrev Ledger (σ κ δ : Type*) := σ → Option (List (Item κ δ))

namespace Ledger
variable {ρ σ : Type*}

section
variable [DecidableEq κ]

/-- The items of a shelf, none if it has not been visited. -/
def items (l : Ledger σ κ δ) (shelf : σ) : List (Item κ δ) := (l shelf).getD []

variable [DecidableEq σ]

def record (l : Ledger σ κ δ) (visit : Visit ρ σ κ δ) : Ledger σ κ δ :=
  Function.update l visit.shelf (some (Register.record (l.items visit.shelf) (visit.key, visit.stamp)))

def recordAll (l : Ledger σ κ δ) (visits : List (Visit ρ σ κ δ)) : Ledger σ κ δ :=
  visits.foldl record l

/-- The visits that add an item, in order. -/
def news (l : Ledger σ κ δ) : List (Visit ρ σ κ δ) → List (Visit ρ σ κ δ)
  | [] => []
  | visit :: visits =>
      if visit.key ∈ keys (l.items visit.shelf) then news (l.record visit) visits
      else visit :: news (l.record visit) visits

/-- The visits to one shelf. -/
def visitsAt (visits : List (Visit ρ σ κ δ)) (shelf : σ) : List (κ × δ) :=
  (visits.filter fun visit => visit.shelf = shelf).map fun visit => (visit.key, visit.stamp)

theorem recordAll_concat (l : Ledger σ κ δ) (visits : List (Visit ρ σ κ δ))
    (visit : Visit ρ σ κ δ) :
    l.recordAll (visits ++ [visit]) = (l.recordAll visits).record visit := by
  rw [recordAll, List.foldl_append]
  rfl

theorem news_concat (l : Ledger σ κ δ) (visits : List (Visit ρ σ κ δ)) (visit : Visit ρ σ κ δ) :
    l.news (visits ++ [visit]) = l.news visits ++
      if visit.key ∈ keys ((l.recordAll visits).items visit.shelf) then [] else [visit] := by
  induction visits generalizing l with
  | nil => rw [List.nil_append, news, news, news, List.nil_append]; rfl
  | cons v visits ih =>
    rw [List.cons_append, news, news, ih]
    split <;> rfl

theorem items_record (l : Ledger σ κ δ) (visit : Visit ρ σ κ δ) (shelf : σ) :
    (l.record visit).items shelf =
      if visit.shelf = shelf then Register.record (l.items shelf) (visit.key, visit.stamp)
      else l.items shelf := by
  by_cases h : visit.shelf = shelf
  · subst h
    rw [if_pos rfl, items, record, Function.update_self]
    rfl
  · rw [if_neg h, items, record, Function.update_of_ne (Ne.symm h), ← items]

/-- Every shelf has the register of its visits. -/
theorem items_recordAll (l : Ledger σ κ δ) (visits : List (Visit ρ σ κ δ)) (shelf : σ) :
    (l.recordAll visits).items shelf =
      (visitsAt visits shelf).foldl Register.record (l.items shelf) := by
  induction visits using List.reverseRecOn with
  | nil => rfl
  | append_singleton visits visit ih =>
    rw [recordAll_concat, items_record, visitsAt, List.filter_append, List.map_append,
      List.foldl_append, ← visitsAt, ih]
    by_cases h : visit.shelf = shelf
    · simp [h]
    · simp [h]

/-- A shelf has a register once it has been visited. -/
theorem isSome_recordAll (l : Ledger σ κ δ) (visits : List (Visit ρ σ κ δ)) (shelf : σ) :
    ((l.recordAll visits) shelf).isSome ↔ (l shelf).isSome ∨ shelf ∈ visits.map Visit.shelf := by
  induction visits using List.reverseRecOn with
  | nil => simp [recordAll]
  | append_singleton visits visit ih =>
    rw [recordAll_concat, record]
    by_cases h : shelf = visit.shelf
    · simp [h]
    · rw [Function.update_of_ne h, ih]
      simp [h]

/-- What has been recorded on a shelf stays known there. -/
theorem mem_keys_recordAll {l : Ledger σ κ δ} {visits : List (Visit ρ σ κ δ)} {shelf : σ}
    {key : κ} :
    key ∈ keys ((l.recordAll visits).items shelf) ↔
      key ∈ keys (l.items shelf) ∨ ∃ visit ∈ visits, visit.shelf = shelf ∧ visit.key = key := by
  induction visits using List.reverseRecOn with
  | nil => simp [recordAll]
  | append_singleton visits visit ih =>
    rw [recordAll_concat, items_record]
    by_cases h : visit.shelf = shelf
    · rw [if_pos h, mem_keys_record, ih]
      simp only [List.mem_append, List.mem_singleton]
      grind
    · rw [if_neg h, ih]
      simp only [List.mem_append, List.mem_singleton]
      grind

/-- **The news of a new ledger** are the distinct pairs of visitor and key, if every
visitor has a shelf of its own. -/
theorem news_eq [BEq (ρ × κ)] [LawfulBEq (ρ × κ)] {visits : List (Visit ρ σ κ δ)} {shelfOf : ρ → σ}
    (hinjective : Function.Injective shelfOf)
    (h : ∀ visit ∈ visits, visit.shelf = shelfOf visit.who) :
    (news (fun _ => none) visits).map (fun visit => (visit.who, visit.key)) =
      (visits.map fun visit => (visit.who, visit.key)).eraseDups := by
  induction visits using List.reverseRecOn with
  | nil => rfl
  | append_singleton visits visit ih =>
    have hbefore : ∀ v ∈ visits, v.shelf = shelfOf v.who :=
      fun v hv => h v (List.mem_append_left _ hv)
    have hlast : visit.shelf = shelfOf visit.who := h visit (by simp)
    have hknown : visit.key ∈ keys ((recordAll (fun _ => none) visits).items visit.shelf) ↔
        (visit.who, visit.key) ∈ visits.map fun visit => (visit.who, visit.key) := by
      rw [mem_keys_recordAll, List.mem_map]
      constructor
      · rintro (hnone | ⟨v, hv, hshelf, hkey⟩)
        · simp [items, keys] at hnone
        · rw [hbefore v hv, hlast] at hshelf
          exact ⟨v, hv, by rw [hinjective hshelf, hkey]⟩
      · rintro ⟨v, hv, he⟩
        obtain ⟨hwho, hkey⟩ := Prod.mk.inj he
        exact .inr ⟨v, hv, by rw [hbefore v hv, hlast, hwho], hkey⟩
    rw [news_concat, List.map_append, ih hbefore, List.map_append, List.map_singleton]
    by_cases hmem : visit.key ∈ keys ((recordAll (fun _ => none) visits).items visit.shelf)
    · rw [if_pos hmem, eraseDups_concat_of_mem (hknown.mp hmem), List.map_nil, List.append_nil]
    · rw [if_neg hmem, eraseDups_concat_of_notMem fun hp => hmem (hknown.mpr hp)]
      rfl

end
end Ledger
end Register
