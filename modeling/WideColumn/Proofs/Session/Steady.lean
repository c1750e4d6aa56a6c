import WideColumn.Proofs.Session.BestEffort
import WideColumn.Proofs.Session.Planned

namespace WideColumn

variable {ω ρ α β : Type}

namespace Event

def isConnected : Event → Bool
  | connected .. => true
  | _ => false

theorem isConnected_of_isFieldUnset {event : Event} (h : event.isFieldUnset = true) :
    event.isConnected = false := by
  cases event <;> first | rfl | contradiction

end Event

def Effect.isConnection : Effect → Bool
  | connecting => true
  | logged event => event.isConnected
  | _ => false

namespace World

variable {w w' w'' : World ω}

def connections (w : World ω) : List Effect :=
  w.trace.filter Effect.isConnection

theorem connections_of_trace {added : List Effect} (h : w'.trace = w.trace ++ added) :
    w'.connections = w.connections ++ added.filter Effect.isConnection := by
  rw [connections, connections, h, List.filter_append]

structure Steady (w w' : World ω) : Prop where
  models : w'.models = w.models
  held : w'.held = w.held
  connections : w'.connections = w.connections

theorem Steady.refl (w : World ω) : w.Steady w := ⟨rfl, rfl, rfl⟩

theorem Steady.trans (h : w.Steady w') (h' : w'.Steady w'') : w.Steady w'' where
  models := h'.models.trans h.models
  held := h'.held.trans h.held
  connections := h'.connections.trans h.connections

theorem steady_record {e : Effect} (h : e.isConnection = false) (o : ω) :
    w.Steady { record e w with outside := o } where
  models := rfl
  held := rfl
  connections := by
    have hadded : [e].filter Effect.isConnection = [] := by simp [h]
    rw [connections_of_trace (w := w) rfl, hadded, List.append_nil]

theorem steady_recordEvents {events : List Event}
    (h : ∀ event ∈ events, event.isConnected = false) : w.Steady (recordEvents events w) where
  models := rfl
  held := rfl
  connections := by
    have hadded : (events.map Effect.logged).filter Effect.isConnection = [] := by
      apply List.filter_eq_nil_iff.mpr
      intro e he
      obtain ⟨event, hevent, rfl⟩ := List.mem_map.mp he
      exact ne_true_of_eq_false (h event hevent)
    rw [connections_of_trace (w := w) rfl, hadded, List.append_nil]

end World

namespace Action

def Steady (x : Action ω α) : Prop :=
  ∀ w : World ω, w.Steady (x.outcome w).2

variable {x : Action ω α} {f : α → Action ω β}

theorem Steady.bind (hx : x.Steady) (hf : ∀ a, (f a).Steady) : (x >>= f).Steady := by
  intro w
  have hfirst := hx w
  rw [outcome_bind]
  rcases hr : x.outcome w with ⟨e | a, w₁⟩
  · rw [hr] at hfirst
    exact hfirst
  · rw [hr] at hfirst
    exact hfirst.trans (hf a w₁)

theorem steady_pure (a : α) : (pure a : Action ω α).Steady := .refl

theorem steady_throw (e : Error) : (throw e : Action ω α).Steady := .refl

theorem steady_ofExcept {ε : Type} [ToError ε] (r : Except ε α) :
    (ofExcept r : Action ω α).Steady := .refl

theorem steady_reporting {result : α × List Event}
    (h : ∀ event ∈ result.2, event.isFieldUnset = true) :
    (reporting result : Action ω α).Steady :=
  fun _ => World.steady_recordEvents fun event hevent =>
    Event.isConnected_of_isFieldUnset (h event hevent)

end Action

namespace Session

open WideColumn.Action

variable {s : Session ω} {change : Change} {subject : Subject α} {mutation : Mutation α}
  {m : Materializer} {table : ColumnTable ρ}

theorem execute_steady (st : Statement) : (s.execute st).Steady :=
  fun _ => World.steady_record rfl _

theorem prepare_steady (cql : String) : (s.prepare cql).Steady :=
  fun _ => World.steady_record rfl _

theorem materializer_steady : s.materializer.Steady := .refl

theorem runSelect_steady (q : Query) (params : List Value) : (s.runSelect q params).Steady := by
  rw [runSelect_eq]
  refine (steady_ofExcept _).bind fun plan => ?_
  exact (execute_steady plan.statement).bind fun _ => steady_pure _

theorem fetchMaps_steady (q : Query) (params : List Value) : (s.fetchMaps q params).Steady := by
  refine (runSelect_steady q params).bind fun found => ?_
  exact (steady_ofExcept _).bind fun _ => steady_pure _

theorem records_isFieldUnset (rows : List Row) :
    ∀ event ∈ (m.records table rows).2, event.isFieldUnset = true := by
  induction rows with
  | nil => exact List.forall_mem_nil _
  | cons row rows ih =>
    exact List.forall_mem_append.mpr ⟨assign_isFieldUnset m table table.model.blank row.columns, ih⟩

theorem keepRecords_steady (filter : List Predicate) (rows : List Row) :
    (s.keepRecords m table filter rows).Steady := by
  induction rows with
  | nil => exact steady_pure []
  | cons row rows ih =>
    refine (steady_reporting (assign_isFieldUnset m table _ row.columns)).bind fun record => ?_
    refine (steady_ofExcept _).bind fun keep => ?_
    exact ih.bind fun kept => steady_pure _

theorem selected_steady (q : Query) (plan : SelectPlan) (rows : List Row) :
    (s.selected table q plan rows).Steady := by
  refine materializer_steady.bind fun m => ?_
  cases s.postEvaluation with
  | rawRows =>
    refine (steady_ofExcept _).bind fun kept => ?_
    exact (steady_reporting (records_isFieldUnset _)).bind fun records => steady_pure _
  | materialized =>
    refine (steady_ofExcept _).bind fun _ => ?_
    exact (keepRecords_steady _ rows).bind fun kept => steady_pure _

theorem answered_steady (rows : List Row) : (s.answered rows).Steady := by
  cases rows <;> exact steady_pure _

theorem opening_steady (resource : String) (values : NamedValues) :
    (s.opening change resource values).Steady := by
  refine (steady_ofExcept _).bind fun keys => ?_
  cases change with
  | update =>
    refine (steady_ofExcept _).bind fun explicit => ?_
    refine Steady.bind ?_ fun _ => steady_pure _
    rw [sharedTemplate]
    split
    · exact steady_pure none
    · refine (steady_ofExcept _).bind fun template => ?_
      exact (prepare_steady template.cql).bind fun _ => steady_pure _
  | delete =>
    refine (steady_ofExcept _).bind fun template => ?_
    exact (prepare_steady template.cql).bind fun _ => steady_pure _

theorem attempt_steady (statement : Except Error Statement) {result : α × List Event}
    (h : ∀ event ∈ result.2, event.isFieldUnset = true) : (s.attempt statement result).Steady := by
  refine (steady_ofExcept statement).bind fun st => ?_
  exact (execute_steady st).bind fun _ => steady_reporting h

theorem bestEffort_steady {skip : Error → Event} {attempt : α → Action ω β}
    (hskip : ∀ e, (skip e).isConnected = false) (h : ∀ x, (attempt x).Steady) (batch : List α)
    (w : World ω) : w.Steady ((bestEffort skip attempt batch).run w).2 := by
  induction batch generalizing w with
  | nil => exact .refl w
  | cons x xs ih =>
    have hfirst := h x w
    rw [bestEffort_cons]
    rcases hx : (attempt x).outcome w with ⟨e | y, w₁⟩
    · rw [hx] at hfirst
      have hlogged : w₁.Steady (World.record (.logged (skip e)) w₁) :=
        World.steady_record (e := .logged (skip e)) (hskip e) w₁.outside
      exact (hfirst.trans hlogged).trans (ih _)
    · rw [hx] at hfirst
      exact hfirst.trans (ih w₁)

theorem finish_steady {skip : Error → Event} {statement : β → Except Error Statement}
    {result : β → α × List Event} (hskip : ∀ e, (skip e).isConnected = false)
    (h : ∀ x, ∀ event ∈ (result x).2, event.isFieldUnset = true) (batch : List β) :
    (do return subject.finish (← bestEffort skip (fun x => s.attempt (statement x) (result x))
      batch) : Action ω (ResultSet α)).Steady := by
  intro w
  rw [outcome_state]
  exact bestEffort_steady hskip (fun x => attempt_steady (statement x) (h x)) batch w

theorem runChange_steady (h : ReportsFields subject) (params : List Value)
    (hscope : mutation.hasScope = true) :
    (s.runChange change subject mutation params).Steady := by
  by_cases hitems : mutation.items = []
  · obtain ⟨q, hquery⟩ := query_of_hasScope hscope hitems
    by_cases hvalues : change = .update → mutation.values.isEmpty = false
    · rw [runChange_query hitems hquery hvalues]
      refine (opening_steady _ _).bind fun o => (fetchMaps_steady q params).bind fun rows => ?_
      exact finish_steady (fun _ => rfl) (fun row => rowResult_events row h.ofRow) rows
    · obtain ⟨rfl, hempty⟩ := Classical.not_imp.mp hvalues
      rw [runChange_query_update hitems (Bool.not_eq_false _ ▸ hempty)]
      exact (opening_steady _ _).bind fun _ => steady_throw _
  · rw [runChange_items hitems]
    refine (opening_steady _ _).bind fun o => ?_
    exact finish_steady (fun _ => rfl)
      (fun item => itemResult_events _ item (h.assign item)) mutation.items

end Session

inductive TypedCall (ρ : Type) where
  | insert (record : ρ)
  | select (q : Query) (params : List Value)
  | mutate (change : Change) (mutation : Mutation ρ) (params : List Value)

namespace TypedCall

open WideColumn.Action

variable {s : Session ω} {model : RecordModel ρ} {table : ColumnTable ρ} {call : TypedCall ρ}

def perform (s : Session ω) (model : RecordModel ρ) : TypedCall ρ → Action ω (ResultSet ρ)
  | insert record => s.insert model record
  | select q params => s.select model q params
  | mutate change mutation params => s.changeRecords change model mutation params

def usesTable : TypedCall ρ → Bool
  | insert _ => true
  | select _ _ => true
  | mutate _ mutation _ => mutation.hasScope

def onTable (s : Session ω) (model : RecordModel ρ) (table : ColumnTable ρ) :
    TypedCall ρ → Action ω (ResultSet ρ)
  | insert record => do
    let statement ← Action.ofExcept (Statement.buildInsert table.resource
      (.ofList (model.fieldValues record)) s.catalog s.naming)
    let _ ← s.execute statement
    return .single record
  | select q params => do
    let (plan, rows) ← s.runSelect q params
    s.selected table q plan rows
  | mutate change mutation params => do
    s.runChange change (.typed table (← s.materializer)) mutation params

theorem perform_eq (h : call.usesTable = true) :
    call.perform s model = s.table model >>= fun table => call.onTable s model table := by
  cases call with
  | insert record => rfl
  | select q params => rfl
  | mutate change mutation params =>
    rw [perform, Session.changeRecords_eq, Session.requireScope_eq_ok.mpr h, ofExcept_ok, pure_bind]
    simp only [Session.typedSubject, bind_assoc, pure_bind]
    rfl

theorem onTable_steady (h : call.usesTable = true) : (call.onTable s model table).Steady := by
  cases call with
  | insert record =>
    refine (steady_ofExcept _).bind fun st => ?_
    exact (Session.execute_steady st).bind fun _ => steady_pure _
  | select q params =>
    refine (Session.runSelect_steady q params).bind fun found => ?_
    exact Session.selected_steady q found.1 found.2
  | mutate change mutation params =>
    refine Session.materializer_steady.bind fun m => ?_
    exact Session.runChange_steady (Session.reportsFields_typed table m) params h

theorem perform_outcome (h : call.usesTable = true) (w : World ω) :
    (call.perform s model).outcome w =
      (call.onTable s model (w.models.table model s.naming).1).outcome
        { w with models := (w.models.table model s.naming).2 } := by
  rw [perform_eq h]
  exact outcome_bind_of_ok rfl

theorem perform_refused (h : call.usesTable = false) (w : World ω) :
    (call.perform s model).outcome w = (.error SessionError.scopeMissing.toError, w) := by
  cases call with
  | insert record => contradiction
  | select q params => contradiction
  | mutate change mutation params =>
    have hscope : mutation.hasScope = false := h
    have hrequire : mutation.requireScope = .error .scopeMissing := by
      rw [Mutation.requireScope, hscope, if_neg Bool.false_ne_true]
    rw [perform, Session.changeRecords_eq, hrequire]
    rfl

theorem perform_frame (s : Session ω) (model : RecordModel ρ) (call : TypedCall ρ) (w : World ω) :
    let w' := ((call.perform s model).outcome w).2
    w'.models = (if call.usesTable then (w.models.table model s.naming).2 else w.models) ∧
      w'.held = w.held ∧ w'.connections = w.connections := by
  intro w'
  cases h : call.usesTable with
  | true =>
    let w₁ : World ω := { w with models := (w.models.table model s.naming).2 }
    have hsteady : w₁.Steady w' := by
      simp only [w', perform_outcome h]
      exact onTable_steady h w₁
    exact ⟨hsteady.models, hsteady.held, hsteady.connections⟩
  | false =>
    have hsame : w' = w := congrArg Prod.snd (perform_refused h w)
    rw [hsame]
    exact ⟨rfl, rfl, rfl⟩

end TypedCall

inductive UntypedCall where
  | insert (resource : String) (values : NamedValues)
  | select (q : Query) (params : List Value)
  | mutate (change : Change) (mutation : Mutation RowMap) (params : List Value)

namespace UntypedCall

open WideColumn.Action

def perform (s : Session ω) : UntypedCall → Action ω (ResultSet RowMap)
  | insert resource values => s.insertValues resource values
  | select q params => s.selectRows q params
  | mutate change mutation params => s.changeRows change mutation params

theorem perform_steady (s : Session ω) (call : UntypedCall) : (call.perform s).Steady := by
  cases call with
  | insert resource values =>
    refine (steady_ofExcept _).bind fun resource => (steady_ofExcept _).bind fun st => ?_
    exact (Session.execute_steady st).bind Session.answered_steady
  | select q params => exact (Session.fetchMaps_steady q params).bind fun _ => steady_pure _
  | mutate change mutation params =>
    rw [perform, Session.changeRows_eq]
    cases hscope : mutation.requireScope with
    | error e => exact steady_throw _
    | ok _ =>
      rw [ofExcept_ok, pure_bind]
      cases hsubject : s.untypedSubject mutation with
      | error e => exact steady_throw _
      | ok subject =>
        exact Session.runChange_steady (Session.reportsFields_of_untypedSubject hsubject) params
          (Session.requireScope_eq_ok.mp hscope)

end UntypedCall

end WideColumn
