import WideColumn.Proofs.Layer.Runs
import WideColumn.Proofs.Session.Registry
import WideColumn.Record.Declared

/-!
The column tables of a run. A record type has one table in all sessions. Its names are those that
the session of its first use gave it, also where a later session has another naming.
-/

namespace WideColumn

def RecordModel.SameNames {ρ σ : Type} (model : RecordModel ρ) (model' : RecordModel σ) : Prop :=
  model.resource = model'.resource ∧
    model.fields.map FieldModel.name = model'.fields.map FieldModel.name

theorem RecordModel.SameNames.ofModel_eq {ρ σ : Type} {model : RecordModel ρ}
    {model' : RecordModel σ} (h : model.SameNames model') (naming : Naming) :
    ColumnNames.ofModel model naming = .ofModel model' naming := by
  have hfields := congrArg (List.map naming.normalize) h.2
  rw [List.map_map, List.map_map] at hfields
  rw [ColumnNames.ofModel, ColumnNames.ofModel, h.1]
  exact congrArg _ hfields

namespace Layer

variable {ω : Type}

structure TableUse (ω : Type) : Type 1 where
  {ρ : Type}
  model : RecordModel ρ
  call : TypedCall ρ
  session : Session ω
  world : World ω
  uses : call.usesTable = true

namespace TableUse

def table (u : TableUse ω) : ColumnTable u.ρ :=
  (u.world.models.table u.model u.session.naming).1

def ownNames (u : TableUse ω) : ColumnNames :=
  .ofModel u.model u.session.naming

def firstOf (u : TableUse ω) (before : List (TableUse ω)) : TableUse ω :=
  (before.find? fun v => v.model.typeName == u.model.typeName).getD u

end TableUse

namespace State

variable {st : State ω} {step : Step ω} {steps : List (Step ω)} {u : TableUse ω}
  {before after : List (TableUse ω)}

def tableUse? (st : State ω) : Step ω → Option (TableUse ω)
  | .typed i model call =>
    if h : call.usesTable = true then st.sessions[i]?.map fun s => ⟨model, call, s, st.world, h⟩
    else none
  | _ => none

def uses (st : State ω) (steps : List (Step ω)) : List (TableUse ω) :=
  st.observe tableUse? steps

theorem of_tableUse?_eq_some (h : st.tableUse? step = some u) :
    u.session ∈ st.sessions ∧ u.world = st.world ∧
      (st.apply step).world.models = (st.world.models.table u.model u.session.naming).2 := by
  cases step with
  | typed i model call =>
    rw [tableUse?] at h
    split at h
    · next huses =>
      obtain ⟨s, hs, rfl⟩ := Option.map_eq_some_iff.mp h
      refine ⟨List.mem_of_getElem? hs, rfl, ?_⟩
      rw [apply, onSession, hs]
      dsimp only
      rw [(call.perform_frame s model st.world).1, if_pos huses]
    · contradiction
  | _ => cases h

theorem models_of_tableUse?_eq_none (h : st.tableUse? step = none) :
    (st.apply step).world.models = st.world.models := by
  cases step with
  | begin => exact (begins_outcome st.layer st.world).models
  | withNaming naming => rfl
  | withPostEvaluation post => rfl
  | typed i model call =>
    rw [apply, onSession]
    cases hs : st.sessions[i]? with
    | none => rfl
    | some s =>
      have huses : call.usesTable = false := by
        rw [tableUse?, hs] at h
        by_contra hne
        rw [dif_pos (Bool.eq_true_of_not_eq_false hne)] at h
        cases h
      dsimp only
      rw [(call.perform_frame s model st.world).1, huses, if_neg Bool.false_ne_true]
  | untyped i call =>
    exact onSession_world (P := fun w => w.models = st.world.models)
      (fun s => (call.perform_steady s st.world).models) rfl
  | outside change => rfl

theorem run_lookup (name : String) : (st.run steps).world.models.known.lookup name =
    (st.world.models.known.lookup name).or
      (((st.uses steps).find? fun u => u.model.typeName == name).map TableUse.ownNames) := by
  induction steps generalizing st with
  | nil => exact Option.or_none.symm
  | cons step steps ih =>
    rw [run_cons, ih, uses, uses, observe_cons]
    cases hview : st.tableUse? step with
    | none =>
      rw [models_of_tableUse?_eq_none hview]
      rfl
    | some u =>
      -- what this use adds counts only where the registry had nothing, and hides all later uses
      obtain ⟨-, -, hmodels⟩ := of_tableUse?_eq_some hview
      rw [hmodels, ModelRegistry.known_table, Option.toList_some, List.singleton_append,
        List.find?_cons, Option.or_assoc]
      by_cases hname : u.model.typeName = name
      · rw [if_pos hname, beq_iff_eq.mpr hname]
        rfl
      · rw [if_neg hname, beq_false_of_ne hname, Option.none_or]

theorem table_use (hempty : st.world.models.known = []) (h : st.uses steps = before ++ u :: after) :
    u.table = ⟨u.model, (u.firstOf before).ownNames⟩ := by
  obtain ⟨first, step, -, -, hbefore, hview, -⟩ := observe_eq_append_cons h
  obtain ⟨-, hworld, -⟩ := of_tableUse?_eq_some hview
  have huses : st.uses first = before := hbefore
  rw [TableUse.table, ModelRegistry.table_eq, hworld, run_lookup, hempty, huses, TableUse.firstOf]
  cases before.find? fun v => v.model.typeName == u.model.typeName <;> rfl

theorem naming_of_mem_uses (hsessions : st.sessions = [])
    (hsteps : ∀ step ∈ steps, ∀ naming, step ≠ .withNaming naming) (hu : u ∈ st.uses steps) :
    u.session.naming = st.layer.naming := by
  obtain ⟨first, step, rest, rfl, hview⟩ := mem_observe hu
  have hfirst : ∀ step ∈ first, ∀ naming, step ≠ .withNaming naming :=
    fun step hstep => hsteps step (List.mem_append_left _ hstep)
  have hnone : ∀ s ∈ st.sessions, s.naming = st.layer.naming := by
    rw [hsessions]
    exact List.forall_mem_nil _
  exact run_naming hfirst hnone u.session (of_tableUse?_eq_some hview).1

end State

variable {u : TableUse ω} {before after : List (TableUse ω)} {steps : List (Step ω)}

theorem TableUse.firstOf_eq_or_mem (u : TableUse ω) (before : List (TableUse ω)) :
    u.firstOf before = u ∨ u.firstOf before ∈ before := by
  rw [firstOf]
  cases hfirst : before.find? fun v => v.model.typeName == u.model.typeName with
  | none => exact .inl rfl
  | some v => exact .inr (List.mem_of_find?_eq_some hfirst)

/-- Every call on records goes over the table of its record type's first use. It is the one that the
session of the call would build if and only if both sessions give the type the same names, as they
do while the naming of the layer stays. -/
theorem run_columnTables (l : Layer ω) (outside : ω)
    (h : (State.start l outside).uses steps = before ++ u :: after) :
    let first := u.firstOf before
    (u.call.perform u.session u.model).outcome u.world =
        (u.call.onTable u.session u.model u.table).outcome
          { u.world with models := (u.world.models.table u.model u.session.naming).2 } ∧
      u.table = ⟨u.model, .ofModel first.model first.session.naming⟩ ∧
      (first.model.SameNames u.model →
        u.table = .build u.model first.session.naming ∧
        (u.table = .build u.model u.session.naming ↔
          ColumnNames.ofModel u.model first.session.naming =
            .ofModel u.model u.session.naming) ∧
        ((∀ step ∈ steps, ∀ naming, step ≠ .withNaming naming) →
          u.table = .build u.model u.session.naming)) := by
  intro first
  have htable : u.table = ⟨u.model, .ofModel first.model first.session.naming⟩ :=
    State.table_use rfl h
  refine ⟨TypedCall.perform_outcome u.uses u.world, htable, fun hsame => ?_⟩
  have hbuilt : u.table = .build u.model first.session.naming := by
    rw [htable, hsame.ofModel_eq]
    rfl
  have hiff : u.table = .build u.model u.session.naming ↔
      ColumnNames.ofModel u.model first.session.naming = .ofModel u.model u.session.naming := by
    rw [hbuilt, ColumnTable.build, ColumnTable.build, ColumnTable.mk.injEq, and_iff_right rfl]
  refine ⟨hbuilt, hiff, fun hsteps => ?_⟩
  have hnaming {v : TableUse ω} (hv : v ∈ before ++ u :: after) : v.session.naming = l.naming :=
    State.naming_of_mem_uses rfl hsteps (h ▸ hv)
  have hfirst : first.session.naming = u.session.naming := by
    rcases u.firstOf_eq_or_mem before with heq | hmem
    · exact congrArg (fun v => v.session.naming) heq
    · have hu := hnaming (List.mem_append_right before (List.mem_cons_self (a := u)))
      exact (hnaming (List.mem_append_left _ hmem)).trans hu.symm
  rw [hiff, hfirst]

def profileModel : RecordModel (DeclaredRecord [.plain "displayName" .text]) :=
  .declare "Profile" "userProfile" _

def profileLayer : Layer Nat where
  config := { keyspace := "app" }
  connector _ time := (.ok { execute := fun _ time => (.ok [], time) }, time)
  catalog := (MemoryCatalog.ofTables
    [(Session.bareTable "user_profile").withPartitionKey "display_name" .text]).toCatalog

def profileSteps : List (Step Nat) :=
  [.begin, .typed 0 profileModel (.insert profileModel.blank), .begin,
    .typed 1 profileModel (.select { resource := "userProfile" } [])]

theorem run_columnTables_profile : ∃ before u,
    (State.start profileLayer 0).uses profileSteps = before ++ [u] ∧ before.length = 1 ∧
      u.table.resource = "user_profile" ∧ u.table = .build u.model u.session.naming := by
  have huses : ∃ first u, (State.start profileLayer 0).uses profileSteps = [first] ++ [u] ∧
      u.firstOf [first] = first ∧ first.model.SameNames u.model ∧
      u.table.resource = "user_profile" := ⟨_, _, rfl, rfl, ⟨rfl, rfl⟩, rfl⟩
  obtain ⟨first, u, huses, hfirst, hsame, hresource⟩ := huses
  have htables := run_columnTables profileLayer 0 huses
  rw [hfirst] at htables
  obtain ⟨-, -, hbuilt⟩ := htables
  obtain ⟨-, -, hown⟩ := hbuilt hsame
  refine ⟨[first], u, huses, rfl, hresource, hown ?_⟩
  simp only [profileSteps, List.forall_mem_cons]
  exact ⟨nofun, nofun, nofun, nofun, List.forall_mem_nil _⟩

def renamedSteps : List (Step Nat) :=
  [.begin, .typed 0 profileModel (.insert profileModel.blank), .withNaming .identity, .begin,
    .typed 1 profileModel (.select { resource := "userProfile" } [])]

theorem columnTables_keep_naming : ∃ before u,
    (State.start profileLayer 0).uses renamedSteps = before ++ [u] ∧
      u.session.naming = .identity ∧ u.table.resource = "user_profile" ∧
      u.table ≠ .build u.model u.session.naming := by
  refine ⟨[_], _, rfl, rfl, rfl, fun h => ?_⟩
  have hresource : "user_profile" = "userProfile" := congrArg ColumnTable.resource h
  exact absurd hresource (by decide)

end Layer

end WideColumn
