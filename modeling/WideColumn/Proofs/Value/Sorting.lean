import Mathlib.Data.List.Chain
import Mathlib.Data.List.Nodup
import Mathlib.Data.List.Perm.Subperm
import WideColumn.Value.Coerce

namespace WideColumn

def Composes (o₁ o₂ o₃ : Ordering) : Prop :=
  o₁.isLE = true → o₂.isLE = true → o₃ = o₁.then o₂

namespace Composes

variable {o₁ o₂ o₃ p₁ p₂ p₃ : Ordering}

theorem lex (h : Composes o₁ o₂ o₃) (h' : o₁ = .eq → o₂ = .eq → Composes p₁ p₂ p₃) :
    Composes (o₁.then p₁) (o₂.then p₂) (o₃.then p₃) := by
  intro h₁ h₂
  rw [Ordering.isLE_then_iff_and] at h₁ h₂
  rw [h h₁.1 h₂.1]
  cases o₁ with
  | lt => rfl
  | gt => exact absurd h₁.1 (by decide)
  | eq =>
    cases o₂ with
    | lt => cases p₁ <;> first | rfl | exact absurd h₁.2 (by decide)
    | gt => exact absurd h₂.1 (by decide)
    | eq => exact h' rfl rfl (h₁.2.resolve_left nofun) (h₂.2.resolve_left nofun)

theorem compare {α : Type} [Ord α] [Std.TransOrd α] (a b c : α) :
    Composes (Ord.compare a b) (Ord.compare b c) (Ord.compare a c) := by
  intro h₁ h₂
  cases h : Ord.compare a b with
  | lt => exact Std.TransCmp.lt_of_lt_of_isLE h h₂
  | eq => exact Std.TransCmp.congr_left h
  | gt => exact absurd (h ▸ h₁) (by decide)

end Composes

section Orders

variable {α : Type} (order : α → α → Ordering) (S : α → Prop)

def ComposesOn : Prop :=
  ∀ a b c, S a → S b → S c → Composes (order a b) (order b c) (order a c)

def SeparatesOn : Prop :=
  ∀ a b, S a → S b → order a b = .eq → a = b

variable {order S} {xs : List α}

theorem pairwise_isLE_of_isChain (hcomp : ComposesOn order S) (hxs : ∀ x ∈ xs, S x)
    (h : xs.IsChain fun a b => (order a b).isLE = true) :
    xs.Pairwise fun a b => (order a b).isLE = true := by
  induction xs with
  | nil => exact .nil
  | cons a xs ih =>
    obtain ⟨ha, hrest⟩ := List.forall_mem_cons.mp hxs
    have htail := ih hrest h.tail
    refine List.pairwise_cons.mpr ⟨fun c hc => ?_, htail⟩
    cases xs with
    | nil => contradiction
    | cons b xs =>
      have hab := (List.isChain_cons_cons.mp h).1
      rcases List.mem_cons.mp hc with rfl | hmem
      · exact hab
      · have hbc := (List.pairwise_cons.mp htail).1 c hmem
        rw [hcomp a b c ha (hrest b List.mem_cons_self) (hrest c hc) hab hbc,
          Ordering.isLE_then_iff_and]
        exact ⟨hab, .inr hbc⟩

end Orders

namespace Insertion

variable {α : Type}

theorem insertLast_perm (below : α → α → Bool) (x : α) (xs : List α) :
    (insertLast below x xs).Perm (x :: xs) := by
  induction xs with
  | nil => exact List.Perm.refl _
  | cons y ys ih =>
    rw [insertLast]
    split
    · exact (ih.cons y).trans (List.Perm.swap x y ys)
    · exact List.Perm.refl _

theorem foldl_insertLast_perm (below : α → α → Bool) (xs sorted : List α) :
    (xs.foldl (fun sorted x => insertLast below x sorted) sorted).Perm (xs ++ sorted) := by
  induction xs generalizing sorted with
  | nil => exact List.Perm.refl _
  | cons x xs ih =>
    rw [List.foldl_cons, List.cons_append]
    exact (ih _).trans (((insertLast_perm below x sorted).append_left xs).trans List.perm_middle)

theorem sort_perm (below : α → α → Bool) (xs : List α) : (sort below xs).Perm xs := by
  have h := foldl_insertLast_perm below xs []
  rw [List.append_nil] at h
  exact (List.reverse_perm _).trans h

section Order

variable {below : α → α → Bool} {xs : List α}

theorem insertLast_isChain (hasymm : ∀ a b, below a b = true → below b a = false) (x : α)
    {sorted : List α} (h : sorted.IsChain fun a b => below a b = false) :
    (insertLast below x sorted).IsChain fun a b => below a b = false := by
  induction sorted with
  | nil => exact .singleton x
  | cons y ys ih =>
    rw [insertLast]
    split
    · next hbelow =>
      obtain ⟨hy, hys⟩ := List.isChain_cons.mp h
      refine List.isChain_cons.mpr ⟨fun z hz => ?_, ih hys⟩
      -- what follows `y` is the new element, or what followed it before
      cases ys with
      | nil =>
        obtain rfl : x = z := by simpa [insertLast] using hz
        exact hasymm x y hbelow
      | cons y' ys =>
        rw [insertLast] at hz
        split at hz
        · exact hy z hz
        · obtain rfl : x = z := by simpa using hz
          exact hasymm x y hbelow
    · next hbelow => exact List.isChain_cons_cons.mpr ⟨by simpa using hbelow, h⟩

theorem sort_isChain (hasymm : ∀ a b, below a b = true → below b a = false) (xs : List α) :
    (sort below xs).IsChain fun a b => below b a = false := by
  have hfold (sorted : List α) (h : sorted.IsChain fun a b => below a b = false) :
      (xs.foldl (fun sorted x => insertLast below x sorted) sorted).IsChain
        fun a b => below a b = false := by
    induction xs generalizing sorted with
    | nil => exact h
    | cons x xs ih => exact ih _ (insertLast_isChain hasymm x h)
  exact List.isChain_reverse.mpr (hfold [] .nil)

theorem foldl_insertLast_eq {sorted : List α} (h : xs.IsChain fun a b => below b a = false)
    (hsorted : ∀ y ∈ sorted.head?, ∀ x ∈ xs.head?, below x y = false) :
    xs.foldl (fun sorted x => insertLast below x sorted) sorted = xs.reverse ++ sorted := by
  induction xs generalizing sorted with
  | nil => rfl
  | cons x xs ih =>
    obtain ⟨hx, hxs⟩ := List.isChain_cons.mp h
    have hinsert : insertLast below x sorted = x :: sorted := by
      cases sorted with
      | nil => rfl
      | cons y ys => rw [insertLast, hsorted y rfl x rfl, if_neg Bool.false_ne_true]
    rw [List.foldl_cons, hinsert, ih hxs, List.reverse_cons, List.append_assoc,
      List.singleton_append]
    intro y hy z hz
    obtain rfl : x = y := by simpa using hy
    exact hx z hz

theorem sort_eq_self (h : xs.IsChain fun a b => below b a = false) : sort below xs = xs := by
  have hnone : ∀ y ∈ ([] : List α).head?, ∀ x ∈ xs.head?, below x y = false := by simp
  rw [sort, foldl_insertLast_eq h hnone, List.append_nil, List.reverse_reverse]

end Order

section Repeats

variable {equal : α → α → Bool} {kept : α} {xs : List α}

theorem dropRepeats_sublist (equal : α → α → Bool) (kept : α) (xs : List α) :
    (dropRepeats equal kept xs).Sublist (kept :: xs) := by
  induction xs generalizing kept with
  | nil => exact .refl _
  | cons x xs ih =>
    rw [dropRepeats]
    split
    · exact (ih kept).trans ((List.sublist_cons_self x xs).cons_cons kept)
    · exact (ih x).cons_cons kept

theorem head?_dropRepeats (equal : α → α → Bool) (kept : α) (xs : List α) :
    (dropRepeats equal kept xs).head? = some kept := by
  induction xs with
  | nil => rfl
  | cons x xs ih =>
    rw [dropRepeats]
    split
    · exact ih
    · rfl

theorem dropRepeats_isChain (equal : α → α → Bool) (kept : α) (xs : List α) :
    (dropRepeats equal kept xs).IsChain fun a b => equal b a = false := by
  induction xs generalizing kept with
  | nil => exact .singleton kept
  | cons x xs ih =>
    rw [dropRepeats]
    split
    · exact ih kept
    · next hequal =>
      refine List.isChain_cons.mpr ⟨fun y hy => ?_, ih x⟩
      rw [head?_dropRepeats, Option.mem_some] at hy
      rw [← hy]
      simpa using hequal

theorem dropRepeats_eq_self (h : (kept :: xs).IsChain fun a b => equal b a = false) :
    dropRepeats equal kept xs = kept :: xs := by
  induction xs generalizing kept with
  | nil => rfl
  | cons x xs ih =>
    obtain ⟨hx, hxs⟩ := List.isChain_cons_cons.mp h
    rw [dropRepeats, hx, if_neg Bool.false_ne_true, ih hxs]

theorem exists_mem_dropRepeats (equal : α → α → Bool) {x : α} (h : x ∈ kept :: xs) :
    ∃ y ∈ dropRepeats equal kept xs, y = x ∨ equal x y = true := by
  induction xs generalizing kept with
  | nil => exact ⟨kept, List.mem_singleton_self kept, .inl (List.mem_singleton.mp h).symm⟩
  | cons z zs ih =>
    rw [dropRepeats]
    split
    · rename_i hz
      rcases List.mem_cons.mp h with rfl | h
      · exact ih List.mem_cons_self
      · rcases List.mem_cons.mp h with rfl | h
        · exact ⟨kept, List.mem_of_mem_head? (head?_dropRepeats equal kept zs), .inr hz⟩
        · exact ih (List.mem_cons_of_mem _ h)
    · rcases List.mem_cons.mp h with rfl | h
      · exact ⟨x, List.mem_cons_self, .inl rfl⟩
      · obtain ⟨y, hy, heq⟩ := ih h
        exact ⟨y, List.mem_cons_of_mem _ hy, heq⟩

end Repeats

section Distinct

variable {order : α → α → Ordering} {S : α → Prop} {xs ys : List α}

theorem distinctSort_subperm (order : α → α → Ordering) (xs : List α) :
    (distinctSort order xs).Subperm xs := by
  have hperm := sort_perm (fun a b => order a b == .lt) xs
  rw [distinctSort]
  split
  · exact List.nil_subperm
  · next x rest hsort =>
    rw [hsort] at hperm
    exact (dropRepeats_sublist _ x rest).subperm.trans hperm.subperm

theorem mem_of_mem_distinctSort {y : α} (h : y ∈ distinctSort order xs) : y ∈ xs :=
  (distinctSort_subperm order xs).subset h

theorem exists_mem_distinctSort (order : α → α → Ordering) {x : α} (h : x ∈ xs) :
    ∃ y ∈ distinctSort order xs, y = x ∨ order x y = .eq := by
  rw [← (sort_perm (fun a b => order a b == .lt) xs).mem_iff] at h
  rw [distinctSort]
  split
  · rename_i hsort
    rw [hsort] at h
    contradiction
  · rename_i z rest hsort
    rw [hsort] at h
    simpa using exists_mem_dropRepeats (fun a b => order a b == .eq) h

theorem mem_distinctSort (hsep : SeparatesOn order S) (hxs : ∀ x ∈ xs, S x) {x : α} :
    x ∈ distinctSort order xs ↔ x ∈ xs := by
  refine ⟨mem_of_mem_distinctSort, fun hx => ?_⟩
  obtain ⟨y, hy, rfl | heq⟩ := exists_mem_distinctSort order hx
  · exact hy
  · rwa [hsep x y (hxs x hx) (hxs y (mem_of_mem_distinctSort hy)) heq]

theorem distinctSort_eq_self (h : xs.IsChain fun a b => order b a = .gt) :
    distinctSort order xs = xs := by
  have hsort : sort (fun a b => order a b == .lt) xs = xs :=
    sort_eq_self (h.imp fun _ _ hgt => by rw [hgt]; rfl)
  rw [distinctSort, hsort]
  cases xs with
  | nil => rfl
  | cons x xs => exact dropRepeats_eq_self (h.imp fun _ _ hgt => by rw [hgt]; rfl)

variable [Std.OrientedCmp order]

theorem isLE_of_not_below {a b : α} (h : (order b a == .lt) = false) :
    (order a b).isLE = true := by
  have hswap : order a b = (order b a).swap := Std.OrientedCmp.eq_swap
  rw [hswap]
  cases hba : order b a <;> first | rfl | simp [hba] at h

theorem below_asymm (a b : α) (h : (order a b == .lt) = true) : (order b a == .lt) = false := by
  rw [beq_iff_eq] at h
  rw [beq_eq_false_iff_ne]
  exact Std.OrientedCmp.not_lt_of_lt h

theorem sort_ascends (order : α → α → Ordering) [Std.OrientedCmp order] (xs : List α) :
    (sort (fun a b => order a b == .lt) xs).IsChain fun a b => (order a b).isLE = true :=
  (sort_isChain below_asymm xs).imp fun _ _ => isLE_of_not_below

theorem sort_pairwise (hcomp : ComposesOn order S) (hxs : ∀ x ∈ xs, S x) :
    (sort (fun a b => order a b == .lt) xs).Pairwise fun a b => (order a b).isLE = true :=
  pairwise_isLE_of_isChain hcomp (fun x hx => hxs x ((sort_perm _ xs).mem_iff.mp hx))
    (sort_ascends order xs)

theorem lt_of_isLE_of_ne {a b : α} (h : (order a b).isLE = true)
    (hne : (order b a == .eq) = false) : order a b = .lt := by
  have hswap : order b a = (order a b).swap := Std.OrientedCmp.eq_swap
  rw [hswap] at hne
  cases hab : order a b with
  | lt => rfl
  | eq => simp [hab] at hne
  | gt => simp [hab] at h

theorem distinctSort_isChain (h : (distinctSort order xs).length = xs.length) :
    (distinctSort order xs).IsChain fun a b => order a b = .lt := by
  have hascends := sort_ascends order xs
  have hperm := sort_perm (fun a b => order a b == .lt) xs
  rw [distinctSort] at h ⊢
  split
  · exact .nil
  · next x rest hsort =>
    rw [hsort] at hascends hperm
    simp only [hsort] at h
    have hsame : dropRepeats (fun a b => order a b == .eq) x rest = x :: rest :=
      (dropRepeats_sublist _ x rest).eq_of_length (h.trans hperm.length_eq.symm)
    have hrepeats := dropRepeats_isChain (fun a b => order a b == .eq) x rest
    rw [hsame] at hrepeats ⊢
    rw [List.isChain_iff_getElem] at hascends hrepeats ⊢
    exact fun i hi => lt_of_isLE_of_ne (hascends i hi) (hrepeats i hi)

theorem distinctSort_eq_self_of_lt (h : xs.IsChain fun a b => order a b = .lt) :
    distinctSort order xs = xs :=
  distinctSort_eq_self (h.imp fun _ _ => Std.OrientedCmp.gt_of_lt)

theorem dropRepeats_pairwise (hcomp : ComposesOn order S) {kept : α}
    (hS : ∀ x ∈ kept :: xs, S x)
    (h : (kept :: xs).Pairwise fun a b => (order a b).isLE = true) :
    (dropRepeats (fun a b => order a b == .eq) kept xs).Pairwise fun a b => order a b = .lt := by
  induction xs generalizing kept with
  | nil => exact List.pairwise_singleton _ kept
  | cons x xs ih =>
    obtain ⟨hkept, hxs⟩ := List.pairwise_cons.mp h
    obtain ⟨hSkept, hSxs⟩ := List.forall_mem_cons.mp hS
    rw [dropRepeats]
    split
    · have hsub : (kept :: xs).Sublist (kept :: x :: xs) :=
        (List.sublist_cons_self x xs).cons_cons kept
      exact ih (fun y hy => hS y (hsub.subset hy)) (h.sublist hsub)
    · next hne =>
      refine List.pairwise_cons.mpr ⟨fun y hy => ?_, ih hSxs hxs⟩
      have hmem := (dropRepeats_sublist _ x xs).subset hy
      have hlt := lt_of_isLE_of_ne (hkept x List.mem_cons_self) (by simpa using hne)
      rcases List.mem_cons.mp hmem with rfl | hy
      · exact hlt
      · have hcompose := hcomp kept x y hSkept (hSxs x List.mem_cons_self) (hSxs y hmem)
          (hkept x List.mem_cons_self) ((List.pairwise_cons.mp hxs).1 y hy)
        rw [hcompose, hlt]
        rfl

theorem distinctSort_pairwise (hcomp : ComposesOn order S) (hxs : ∀ x ∈ xs, S x) :
    (distinctSort order xs).Pairwise fun a b => order a b = .lt := by
  have hsorted := sort_pairwise hcomp hxs
  have hperm := sort_perm (fun a b => order a b == .lt) xs
  rw [distinctSort]
  split
  · exact .nil
  · next x rest hsort =>
    rw [hsort] at hsorted hperm
    exact dropRepeats_pairwise hcomp (fun y hy => hxs y (hperm.mem_iff.mp hy)) hsorted

theorem eq_of_pairwise (hxs : xs.Pairwise fun a b => order a b = .lt)
    (hys : ys.Pairwise fun a b => order a b = .lt) (h : ∀ x, x ∈ xs ↔ x ∈ ys) : xs = ys := by
  have : Std.Irrefl fun a b => order a b = .lt :=
    ⟨fun a ha => Std.OrientedCmp.not_lt_of_lt ha ha⟩
  have hperm : xs.Perm ys := (List.perm_ext_iff_of_nodup hxs.nodup hys.nodup).mpr h
  refine hperm.eq_of_pairwise (fun a b _ _ hab hba => ?_) hxs hys
  exact absurd hba (Std.OrientedCmp.not_lt_of_lt hab)

theorem distinctSort_congr (hcomp : ComposesOn order S) (hsep : SeparatesOn order S)
    (hxs : ∀ x ∈ xs, S x) (h : ∀ x, x ∈ xs ↔ x ∈ ys) :
    distinctSort order xs = distinctSort order ys := by
  have hys : ∀ y ∈ ys, S y := fun y hy => hxs y ((h y).mpr hy)
  refine eq_of_pairwise (distinctSort_pairwise hcomp hxs) (distinctSort_pairwise hcomp hys)
    fun x => ?_
  rw [mem_distinctSort hsep hxs, mem_distinctSort hsep hys, h]

theorem sort_congr (hcomp : ComposesOn order S) (hxs : ∀ x ∈ xs, S x)
    (hne : xs.Pairwise fun a b => order a b ≠ .eq) (h : xs.Perm ys) :
    sort (fun a b => order a b == .lt) xs = sort (fun a b => order a b == .lt) ys := by
  have hsymm {a b : α} (hab : order a b ≠ .eq) : order b a ≠ .eq :=
    fun hba => hab (Std.OrientedCmp.eq_symm hba)
  have hlt (zs : List α) (hzs : xs.Perm zs) :
      (sort (fun a b => order a b == .lt) zs).Pairwise fun a b => order a b = .lt := by
    have hperm := hzs.trans (sort_perm (fun a b => order a b == .lt) zs).symm
    refine ((sort_pairwise hcomp fun x hx => hxs x (hzs.mem_iff.mpr hx)).and
      (hne.perm hperm hsymm)).imp fun {a b} hab => ?_
    exact lt_of_isLE_of_ne hab.1 (beq_eq_false_iff_ne.mpr (hsymm hab.2))
  refine eq_of_pairwise (hlt xs (.refl xs)) (hlt ys h) fun x => ?_
  rw [(sort_perm _ xs).mem_iff, (sort_perm _ ys).mem_iff, h.mem_iff]

end Distinct

end Insertion

end WideColumn
