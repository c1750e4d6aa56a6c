import WideColumn.Proofs.Session.Native

namespace WideColumn

open Outcome

namespace Window

variable {α : Type} {start limit : Option UInt32} {rows : List α}

/-- For every row of the window a limit can be written that keeps it. -/
def IsReachable (start limit : Option UInt32) (count : Nat) : Prop :=
  ∀ s l, start = some s → limit = some l →
    s.toNat + l.toNat < UInt32.size ∨ count < UInt32.size

theorem toNat_saturatingAdd (a b : UInt32) :
    (saturatingAdd a b).toNat = min (a.toNat + b.toNat) (UInt32.size - 1) := by
  have ha := a.toNat_lt
  have hb := b.toNat_lt
  rw [saturatingAdd, UInt32.size]
  split
  · rw [UInt32.toNat_add]
    omega
  · have hmax : (0xFFFFFFFF : UInt32).toNat = 4294967295 := rfl
    omega

theorem window_take_eq_iff {s l n : Nat} (hn : n < s + l → s ≤ n) :
    ((rows.take n).drop s).take l = (rows.drop s).take l ↔ s + l ≤ n ∨ rows.length ≤ n := by
  constructor
  · intro h
    have hlength := congrArg List.length h
    simp only [List.length_take, List.length_drop] at hlength
    omega
  · rintro (h | h)
    · rw [List.drop_take, List.take_take, Nat.min_eq_left (by omega)]
    · rw [List.take_of_length_le h]

theorem apply_native (start limit : Option UInt32) (rows : List α) :
    apply start limit (takeLimit (nativeLimit limit start false) rows) =
      apply start limit (if limit.isSome then rows.take (UInt32.size - 1) else rows) := by
  cases limit with
  | none => rfl
  | some l =>
    have hl := l.toNat_lt
    cases start with
    | none =>
      simp only [nativeLimit, apply, takeLimit, dropStart, List.take_take, UInt32.size,
        Bool.false_eq_true, if_false, Option.map_some, Option.isSome_some, if_true]
      congr 1
      omega
    | some s =>
      have hs := s.toNat_lt
      simp only [nativeLimit, apply, takeLimit, dropStart, toNat_saturatingAdd, List.drop_take,
        List.take_take, UInt32.size, Bool.false_eq_true, if_false, Option.map_some,
        Option.isSome_some, if_true]
      congr 1
      omega

theorem apply_native_eq_iff : apply start limit (takeLimit (nativeLimit limit start false) rows) =
    apply start limit rows ↔ IsReachable start limit rows.length := by
  rw [apply_native]
  cases limit with
  | none => exact iff_of_true rfl fun _ _ _ h => nomatch h
  | some l =>
    have hl := l.toNat_lt
    cases start with
    | none =>
      refine iff_of_true ?_ fun _ _ h => nomatch h
      simp only [apply, takeLimit, dropStart, List.take_take, Option.isSome_some, if_true,
        UInt32.size]
      congr 1
      omega
    | some s =>
      have hs := s.toNat_lt
      have hreachable : IsReachable (some s) (some l) rows.length ↔
          s.toNat + l.toNat < UInt32.size ∨ rows.length < UInt32.size :=
        ⟨fun h => h s l rfl rfl, by rintro h _ _ ⟨⟩ ⟨⟩; exact h⟩
      simp only [apply, takeLimit, dropStart, Option.isSome_some, if_true]
      rw [hreachable, window_take_eq_iff fun _ => by rw [UInt32.size]; omega]
      simp only [UInt32.size]
      omega

end Window

namespace Query

open Session (keepMatching keepMatching_eq)

variable {α : Type} {q : Query} {keys : KeyLayout} {naming : Naming} {params : List Value}
  {p : Pushdown}

theorem nativeLimit_of_plan (h : q.plan keys naming params = .ok p) :
    p.nativeLimit = Window.nativeLimit q.limit q.start p.hasResidual := by
  obtain ⟨b, hb, -, -, hresidual⟩ := plan_eq_ok h
  obtain ⟨bs, -, rfl⟩ := bind_eq_ok.mp hb
  rw [Pushdown.nativeLimit, hresidual]
  rfl

/-- The limit that a plan gives the store changes nothing in a window that is reachable. Of any
other window it leaves the rows that a limit can be written for. -/
theorem plan_limitHidden (h : q.plan keys naming params = .ok p) (source : α → FieldSource)
    (rows : List α) :
    ∃ kept cut, keepMatching source p.residual.filter rows = .ok kept ∧
      keepMatching source p.residual.filter (Window.takeLimit p.nativeLimit rows) = .ok cut ∧
      (Window.apply q.start q.limit cut = Window.apply q.start q.limit kept ↔
        p.hasResidual = true ∨ Window.IsReachable q.start q.limit rows.length) ∧
      (p.hasResidual = false → Window.apply q.start q.limit cut = Window.apply q.start q.limit
        (if q.limit.isSome then kept.take (UInt32.size - 1) else kept)) := by
  rw [nativeLimit_of_plan h, keepMatching_eq (isBound_residual h), keepMatching_eq
    (isBound_residual h)]
  refine ⟨_, _, rfl, rfl, ?_⟩
  cases hresidual : p.hasResidual with
  | true => exact ⟨iff_of_true rfl (.inl rfl), nofun⟩
  | false =>
    have hnil : p.residual.filter = [] := by
      simpa [Pushdown.hasResidual, hasFilter] using hresidual
    simp only [hnil, Predicate.accepts_nil, List.filter_true]
    refine ⟨Window.apply_native_eq_iff.trans ?_, fun _ => Window.apply_native _ _ _⟩
    simp

def secondPage : Query where
  resource := "user"
  limit := some 2
  start := some 1

theorem plan_limitHidden_secondPage : ∃ p kept cut,
    secondPage.plan {} .identity [] = .ok p ∧ p.nativeLimit = some 3 ∧
      keepMatching (FieldSource.ofRow .identity) p.residual.filter
        (Window.takeLimit p.nativeLimit (List.replicate 4 ⟨[]⟩)) = .ok cut ∧
      cut.length = 3 ∧ kept.length = 4 ∧
      Window.apply secondPage.start secondPage.limit cut =
        Window.apply secondPage.start secondPage.limit kept := by
  have hplan : ∃ p, secondPage.plan {} .identity [] = .ok p := ⟨_, rfl⟩
  obtain ⟨p, hp⟩ := hplan
  obtain ⟨kept, cut, hkept, hcut, hsame, -⟩ :=
    plan_limitHidden hp (FieldSource.ofRow .identity) (List.replicate 4 ⟨[]⟩)
  cases hp
  refine ⟨_, kept, cut, rfl, rfl, hcut, ?_, ?_, hsame.mpr (.inr ?_)⟩
  · cases hcut
    rfl
  · cases hkept
    rfl
  · exact fun _ _ _ _ => .inr (by decide)

def lastPage : Query where
  resource := "user"
  limit := some 1
  start := some 0xFFFFFFFF

theorem plan_limitShows : ∃ p kept cut, ∃ row : Row,
    lastPage.plan {} .identity [] = .ok p ∧ p.fragments = [] ∧
      keepMatching (FieldSource.ofRow .identity) p.residual.filter
        (List.replicate UInt32.size row) = .ok kept ∧
      keepMatching (FieldSource.ofRow .identity) p.residual.filter
        (Window.takeLimit p.nativeLimit (List.replicate UInt32.size row)) = .ok cut ∧
      Window.apply lastPage.start lastPage.limit kept = [row] ∧
      Window.apply lastPage.start lastPage.limit cut = [] := by
  have hplan : ∃ p, lastPage.plan {} .identity [] = .ok p ∧ p.fragments = [] ∧
      p.residual.filter = [] ∧ p.nativeLimit = some 0xFFFFFFFF := ⟨_, rfl, rfl, rfl, rfl⟩
  obtain ⟨p, hp, hfragments, hfilter, hlimit⟩ := hplan
  have hmax : (0xFFFFFFFF : UInt32).toNat = 4294967295 := rfl
  refine ⟨p, List.replicate UInt32.size ⟨[]⟩, List.replicate 4294967295 ⟨[]⟩, ⟨[]⟩, hp, hfragments,
    ?_, ?_, ?_, ?_⟩
  · rw [keepMatching_eq (isBound_residual hp), hfilter]
    simp only [Predicate.accepts_nil, List.filter_true]
  · rw [keepMatching_eq (isBound_residual hp), hfilter, hlimit]
    simp only [Predicate.accepts_nil, List.filter_true, Window.takeLimit, hmax,
      List.take_replicate, UInt32.size]
    rfl
  · simp only [Window.apply, Window.takeLimit, Window.dropStart, lastPage, hmax, UInt32.size,
      List.drop_replicate, List.take_replicate]
    rfl
  · simp only [Window.apply, Window.takeLimit, Window.dropStart, lastPage, hmax,
      List.drop_replicate, List.take_replicate]
    rfl

end Query

end WideColumn
