import Forecast.Database.TenantScoping

/-!
# Which operations stay with their tenant

The tenant of the context replaces what `where` says about the tenant, so a row of another
tenant is never selected. Data that names a tenant of its own is passed on, and the data of
an update is not looked at: both can take a row to another tenant. What was replaced in
`where` is lost: rows are selected that the caller did not ask for.
-/

open KeyedTable

namespace Forecast.Database

variable {ρ : Type} {client : PrismaClient ρ} {params : Params} {tenantId : String}
  {rows : List ρ}

/-! ### What `where` keeps -/

/-- The operations with a `where`. -/
def PrismaAction.selects : PrismaAction → Bool
  | create | createMany => false
  | _ => true

namespace Params

variable (params : Params) (tenantId : String)

/-- The caller's `where`, with composite keys as the fields they stand for where the middleware
expands them. -/
def expandedWhere : Object :=
  match params.action with
  | .findUnique | .findUniqueOrThrow => (params.args.whereArg.getD []).flatMap expandEntry
  | _ => params.args.whereArg.getD []

def scopedWhere : Object := (params.scoped tenantId).args.whereArg.getD []

/-- The operation as the caller means it: a row that is created without a tenant is of the
context's. -/
def filled : Params :=
  match params.action with
  | .create | .createMany => { params with args := params.args.scopeData tenantId }
  | .upsert =>
    { params with
      args := { params.args with create := some (mergeDataWithTenant params.args.create tenantId) } }
  | _ => params

end Params

theorem flattenCompositeKeys_eq (w : Option Object) :
    flattenCompositeKeys w = lastOfEach Prod.fst ((w.getD []).flatMap expandEntry) := by
  have hfold : ∀ (o flat : Object),
      o.foldl (fun flat e => Object.assign flat (expandEntry e)) flat =
        upsertAll Prod.fst flat (o.flatMap expandEntry) := by
    intro o
    induction o with
    | nil => intro flat; rfl
    | cons e o ih =>
      intro flat
      rw [List.foldl_cons, ih, List.flatMap_cons, Object.assign, upsertAll, upsertAll, upsertAll,
        List.foldl_append]
  exact hfold _ []

/-- What the tenant of the context is put on top of. -/
def Params.keptWhere (params : Params) : Object :=
  match params.action with
  | .findUnique | .findUniqueOrThrow => flattenCompositeKeys params.args.whereArg
  | _ => params.args.whereArg.getD []

theorem scopedWhere_eq (hselects : params.action.selects) :
    params.scopedWhere tenantId = params.keptWhere.set "tenantId" (.text tenantId) := by
  obtain ⟨model, action, args⟩ := params
  cases action with
  | create => cases hselects
  | createMany => cases hselects
  | _ => rfl

theorem keptWhere_subset {e : String × Value} (h : e ∈ params.keptWhere) :
    e ∈ params.expandedWhere := by
  have hflat : ∀ w, e ∈ flattenCompositeKeys w → e ∈ (w.getD []).flatMap expandEntry := by
    intro w hmem
    rw [flattenCompositeKeys_eq] at hmem
    exact lastOfEach_subset hmem
  obtain ⟨model, action, args⟩ := params
  cases action with
  | findUnique => exact hflat args.whereArg h
  | findUniqueOrThrow => exact hflat args.whereArg h
  | _ => exact h

/-- The rewritten `where` has the tenant of the context and entries of the caller. -/
theorem mem_scopedWhere {e : String × Value} (hselects : params.action.selects)
    (h : e ∈ params.scopedWhere tenantId) :
    e = ("tenantId", .text tenantId) ∨ e ∈ params.expandedWhere := by
  rw [scopedWhere_eq hselects] at h
  exact (upsert_subset h).imp_right keptWhere_subset

theorem tenant_mem_scopedWhere (hselects : params.action.selects) :
    ("tenantId", Value.text tenantId) ∈ params.scopedWhere tenantId := by
  rw [scopedWhere_eq hselects, Object.set]
  exact (lookup_eq_some (k := "tenantId") (by rw [lookup_upsert, if_pos rfl])).1

section Selection

variable (hclient : client.Documented)
include hclient

theorem holds_expandEntry (row : ρ) (e : String × Value) :
    ((expandEntry e).all fun e' => client.holds row e'.1 e'.2) = client.holds row e.1 e.2 := by
  obtain ⟨key, value⟩ := e
  unfold expandEntry
  cases value with
  | object entries =>
    dsimp only
    by_cases hkey : '_' ∈ key.toList
    · rw [if_pos hkey, hclient.holds_composite row key entries hkey]
    · rw [if_neg hkey, List.all_cons, List.all_nil, Bool.and_true]
  | _ => simp

theorem selects_expandedWhere (row : ρ) :
    client.selects params.expandedWhere row =
      client.selects (params.args.whereArg.getD []) row := by
  have hexpanded : ∀ w : Object, client.selects (w.flatMap expandEntry) row =
      client.selects w row := fun w => by
    rw [PrismaClient.selects, List.all_flatMap, PrismaClient.selects]
    congr 1
    funext e
    exact holds_expandEntry hclient row e
  obtain ⟨model, action, args⟩ := params
  cases action with
  | findUnique => exact hexpanded (args.whereArg.getD [])
  | findUniqueOrThrow => exact hexpanded (args.whereArg.getD [])
  | _ => rfl

theorem tenantId_of_selects (hselects : params.action.selects) {row : ρ}
    (h : client.selects (params.scopedWhere tenantId) row) : client.tenantId row = tenantId := by
  have hholds := List.all_eq_true.1 h _ (tenant_mem_scopedWhere hselects)
  rw [hclient.holds_tenantId] at hholds
  exact of_decide_eq_true hholds

theorem selects_scopedWhere (hselects : params.action.selects) {row : ρ}
    (htenant : client.tenantId row = tenantId)
    (h : client.selects (params.args.whereArg.getD []) row) :
    client.selects (params.scopedWhere tenantId) row := by
  rw [← selects_expandedWhere hclient] at h
  refine List.all_eq_true.2 fun e he => ?_
  rcases mem_scopedWhere hselects he with rfl | hmem
  · rw [hclient.holds_tenantId]
    exact decide_eq_true htenant
  · exact List.all_eq_true.1 h e hmem

end Selection

/-! ### The law -/

/-- In the name of a tenant an operation touches rows of the tenant only, and does with them what
the caller's operation does with the rows of the tenant. -/
structure ScopingLaw (client : PrismaClient ρ) (tenantScopedModels : List String)
    (tenantId : String) (params : Params) (rows : List ρ) : Prop where
  own : ∀ touch ∈ client.exec (scopeQuery tenantScopedModels (some tenantId) params) rows,
    (∀ row ∈ touch.before, client.tenantId row = tenantId) ∧
      (∀ row ∈ touch.after, client.tenantId row = tenantId) ∧ ∀ t ∈ touch.reached, t = tenantId
  same : client.exec (scopeQuery tenantScopedModels (some tenantId) params) rows =
    client.exec (params.filled tenantId) (rows.filter fun row => client.tenantId row = tenantId)

namespace PrismaClient

variable (client : PrismaClient ρ)

def accepted (items : List Object) : List Object :=
  if items.all fun data => (client.made data).isSome then items else []

def taken (data : Object) (rows : List ρ) : List Object :=
  if rows.any fun row => (client.updated data row).isSome then [data] else []

/-- The data that an operation writes to the rows that it acts on. -/
def written (params : Params) (rows : List ρ) : List Object :=
  match params.action with
  | .update | .updateMany => client.taken (Data.single params.args.data) rows
  | .create | .createMany => client.accepted (Data.items params.args.data)
  | .upsert =>
    if rows.isEmpty then client.accepted [params.args.create.getD []]
    else client.taken (params.args.update.getD []) rows
  | _ => []

end PrismaClient

/-- What the rewriting replaces in `where` is true of the rows that are acted on, the tenant that
it adds to the update of an upsert changes nothing, an operation that names no key it needs does
nothing, the data that is written assigns no other tenant, and nothing of another tenant is
reached through relations. -/
structure StaysHome (client : PrismaClient ρ) (tenantId : String) (params : Params)
    (rows : List ρ) : Prop where
  replaced : client.accepts params → params.action.selects → ∀ e ∈ params.expandedWhere,
    e ∉ params.scopedWhere tenantId →
      ∀ row ∈ client.chosen (params.scoped tenantId) rows, client.holds row e.1 e.2
  merged : client.accepts params → params.action = .upsert →
    ∀ row ∈ client.chosen (params.scoped tenantId) rows,
      client.updateTouch params.args (mergeDataWithTenant params.args.update tenantId) row =
        client.updateTouch params.args (params.args.update.getD []) row
  refused : ¬client.accepts params → client.exec (params.scoped tenantId) rows = []
  assigned : client.accepts (params.scoped tenantId) → ∀ data ∈ client.written
      (params.scoped tenantId) (client.chosen (params.scoped tenantId) rows),
    ∀ t ∈ client.assigned data, t = tenantId
  reached : ∀ touch ∈ client.exec (params.scoped tenantId) rows, ∀ t ∈ touch.reached, t = tenantId

section Touches

variable (hclient : client.Documented)
include hclient

theorem own_created {args : Args} {items : List Object} :
    (∀ touch ∈ client.created args items, (∀ row ∈ touch.before, client.tenantId row = tenantId) ∧
        ∀ row ∈ touch.after, client.tenantId row = tenantId) ↔
      ∀ data ∈ client.accepted items, ∀ t ∈ client.assigned data, t = tenantId := by
  unfold PrismaClient.created PrismaClient.accepted
  by_cases hall : items.all fun data => (client.made data).isSome
  · rw [if_pos hall, if_pos hall]
    constructor
    · intro h data hdata t ht
      obtain ⟨row, hrow⟩ := Option.isSome_iff_exists.1 (List.all_eq_true.1 hall data hdata)
      have hassigned := hclient.assigned_made data row hrow
      rw [hassigned, Option.mem_some_iff] at ht
      have hmem : (⟨none, some row, client.reached data row ++ client.reached args.relations row⟩ :
          Touch ρ) ∈ items.filterMap fun data => (client.made data).map fun row =>
            ⟨none, some row, client.reached data row ++ client.reached args.relations row⟩ :=
        List.mem_filterMap.2 ⟨data, hdata, by rw [hrow, Option.map_some]⟩
      rw [← ht]
      exact (h _ hmem).2 row rfl
    · intro h touch htouch
      obtain ⟨data, hdata, hmade⟩ := List.mem_filterMap.1 htouch
      obtain ⟨row, hrow, rfl⟩ := Option.map_eq_some_iff.1 hmade
      refine ⟨fun _ hnone => absurd hnone (Option.not_mem_none _), fun row' hrow' => ?_⟩
      obtain rfl := Option.some.inj hrow'
      exact h data hdata _ (hclient.assigned_made data row hrow)
  · rw [if_neg hall, if_neg hall]
    simp

/-- Rows that are updated stay with the tenant when and only when data they take assigns no
other. -/
theorem own_updateTouch {args : Args} {data : Object} {rows : List ρ}
    (hrows : ∀ row ∈ rows, client.tenantId row = tenantId) :
    (∀ touch ∈ rows.map (client.updateTouch args data),
        (∀ row ∈ touch.before, client.tenantId row = tenantId) ∧
          ∀ row ∈ touch.after, client.tenantId row = tenantId) ↔
      ∀ d ∈ client.taken data rows, ∀ t ∈ client.assigned d, t = tenantId := by
  unfold PrismaClient.taken
  have hupdated : ∀ row ∈ rows, ∀ row', client.updated data row = some row' →
      (client.tenantId row' = tenantId ↔ ∀ t ∈ client.assigned data, t = tenantId) := by
    intro row hrow row' hrow'
    rw [hclient.tenantId_updated data row row' hrow', hrows row hrow]
    cases client.assigned data <;> simp
  split_ifs with hany
  · obtain ⟨first, hfirst, htakes⟩ := List.any_eq_true.1 hany
    obtain ⟨first', hfirst'⟩ := Option.isSome_iff_exists.1 htakes
    rw [List.forall_mem_singleton]
    constructor
    · intro h
      have hafter := (h _ (List.mem_map.2 ⟨first, hfirst, rfl⟩)).2 first' (by
        rw [PrismaClient.updateTouch, hfirst']
        rfl)
      exact (hupdated first hfirst first' hfirst').1 hafter
    · intro h touch htouch
      obtain ⟨row, hrow, rfl⟩ := List.mem_map.1 htouch
      refine ⟨fun row' hrow' => ?_, fun row' hrow' => ?_⟩
      · obtain rfl := Option.some.inj hrow'
        exact hrows row hrow
      · obtain rfl := Option.some.inj hrow'
        cases hresult : client.updated data row with
        | none => exact hrows row hrow
        | some row' => exact (hupdated row hrow row' hresult).2 h
  · refine iff_of_true (fun touch htouch => ?_) fun _ hd => absurd hd List.not_mem_nil
    obtain ⟨row, hrow, rfl⟩ := List.mem_map.1 htouch
    have hrefused : client.updated data row = none := by
      rw [← Option.not_isSome_iff_eq_none]
      exact fun htakes => hany (List.any_eq_true.2 ⟨row, hrow, htakes⟩)
    refine ⟨fun row' hrow' => ?_, fun row' hrow' => ?_⟩
    · obtain rfl := Option.some.inj hrow'
      exact hrows row hrow
    · rw [PrismaClient.updateTouch, hrefused] at hrow'
      obtain rfl := Option.some.inj hrow'
      exact hrows row hrow

/-- An operation on rows of the tenant touches rows of the tenant only when and only when the
data that it writes assigns no other tenant. -/
theorem own_perform {p : Params} {rows : List ρ}
    (hrows : ∀ row ∈ rows, client.tenantId row = tenantId) :
    (∀ touch ∈ client.perform p rows, (∀ row ∈ touch.before, client.tenantId row = tenantId) ∧
        ∀ row ∈ touch.after, client.tenantId row = tenantId) ↔
      ∀ data ∈ client.written p rows, ∀ t ∈ client.assigned data, t = tenantId := by
  have hread : ∀ {after : ρ → Option ρ} {reached : ρ → List String},
      (∀ row ∈ rows, ∀ row' ∈ after row, row' = row) →
      ∀ touch ∈ rows.map fun row => (⟨some row, after row, reached row⟩ : Touch ρ),
        (∀ row ∈ touch.before, client.tenantId row = tenantId) ∧
          ∀ row ∈ touch.after, client.tenantId row = tenantId := by
    intro after reached hafter touch htouch
    obtain ⟨row, hrow, rfl⟩ := List.mem_map.1 htouch
    refine ⟨fun row' hrow' => ?_, fun row' hrow' => ?_⟩
    · obtain rfl := Option.some.inj hrow'
      exact hrows row hrow
    · rw [hafter row hrow row' hrow']
      exact hrows row hrow
  obtain ⟨model, action, args⟩ := p
  cases action with
  | update => exact own_updateTouch hclient hrows
  | updateMany => exact own_updateTouch hclient hrows
  | delete => exact iff_of_true (hread fun _ _ _ h => by cases h) fun _ h => by cases h
  | deleteMany => exact iff_of_true (hread fun _ _ _ h => by cases h) fun _ h => by cases h
  | create => exact own_created hclient
  | createMany => exact own_created hclient
  | upsert =>
    cases rows with
    | nil => exact own_created hclient
    | cons row rest => exact own_updateTouch hclient hrows
  | _ => exact iff_of_true (hread fun _ _ _ h => (Option.some.inj h).symm) fun _ h => by cases h

end Touches

/-- What was found is what was selected. -/
theorem befores_perform {p : Params} {rows : List ρ} (hselects : p.action.selects) :
    (client.perform p rows).filterMap Touch.before = rows := by
  have hmap : ∀ {f : ρ → Touch ρ}, (∀ row, (f row).before = some row) →
      (rows.map f).filterMap Touch.before = rows := by
    intro f hf
    rw [List.filterMap_map]
    have hsome : Touch.before ∘ f = some := funext hf
    rw [hsome, List.filterMap_some]
  obtain ⟨model, action, args⟩ := p
  cases action with
  | create => cases hselects
  | createMany => cases hselects
  | upsert =>
    cases rows with
    | nil =>
      change (client.created args [args.create.getD []]).filterMap Touch.before = []
      unfold PrismaClient.created
      split_ifs
      · cases hmade : client.made (args.create.getD []) <;> simp [hmade]
      · rfl
    | cons row rest => exact hmap (f := client.updateTouch args (args.update.getD [])) fun _ => rfl
  | update => exact hmap (f := client.updateTouch args (Data.single args.data)) fun _ => rfl
  | updateMany => exact hmap (f := client.updateTouch args (Data.single args.data)) fun _ => rfl
  | delete => exact hmap (f := fun row => ⟨some row, none, _⟩) fun _ => rfl
  | deleteMany => exact hmap (f := fun row => ⟨some row, none, _⟩) fun _ => rfl
  | _ => exact hmap (f := fun row => ⟨some row, some row, _⟩) fun _ => rfl

/-- Beside what is acted on the rewriting changes data that is created and the update of an
upsert. -/
theorem perform_scoped_iff (l : List ρ) :
    client.perform (params.scoped tenantId) l = client.perform (params.filled tenantId) l ↔
      (params.action = .upsert → ∀ row ∈ l,
        client.updateTouch params.args (mergeDataWithTenant params.args.update tenantId) row =
          client.updateTouch params.args (params.args.update.getD []) row) := by
  obtain ⟨model, action, args⟩ := params
  cases action with
  | upsert =>
    cases l with
    | nil => exact iff_of_true rfl fun _ _ h => absurd h List.not_mem_nil
    | cons row rest => exact List.map_inj_left.trans ⟨fun h _ => h, fun h => h rfl⟩
  | _ => exact iff_of_true rfl fun h => by cases h

theorem selects_scoped : (params.scoped tenantId).action.selects = params.action.selects := by
  obtain ⟨model, action, args⟩ := params
  cases action <;> rfl

theorem single_scoped : (params.scoped tenantId).action.single = params.action.single := by
  obtain ⟨model, action, args⟩ := params
  cases action <;> rfl

theorem filled_action : (params.filled tenantId).action = params.action := by
  obtain ⟨model, action, args⟩ := params
  cases action <;> rfl

theorem filled_whereArg : (params.filled tenantId).args.whereArg = params.args.whereArg := by
  obtain ⟨model, action, args⟩ := params
  cases action <;> rfl

theorem accepts_filled :
    client.accepts (params.filled tenantId) = client.accepts params := by
  rw [PrismaClient.accepts, filled_action, filled_whereArg, PrismaClient.accepts]

/-- The rewriting takes no key away. -/
theorem accepts_scoped (hclient : client.Documented) (h : client.accepts params) :
    client.accepts (params.scoped tenantId) := by
  obtain ⟨model, action, args⟩ := params
  cases action with
  | update => exact hclient.unique_set _ _ h
  | delete => exact hclient.unique_set _ _ h
  | upsert => exact hclient.unique_set _ _ h
  | _ => rfl

/-- A creation does not look at the rows. -/
theorem perform_of_not_selects {p : Params} (h : p.action.selects = false) (l l' : List ρ) :
    client.perform p l = client.perform p l' ∧ client.written p l = client.written p l' := by
  obtain ⟨model, action, args⟩ := p
  cases action with
  | create => exact ⟨rfl, rfl⟩
  | createMany => exact ⟨rfl, rfl⟩
  | _ => cases h

/-- Leaving rows out leaves the first ones alone when and only when none of them is left out. -/
theorem take_filter_eq_iff {α : Type} {p : α → Bool} {n : ℕ} {l : List α} :
    (l.filter p).take n = l.take n ↔ ∀ x ∈ l.take n, p x := by
  induction l generalizing n with
  | nil => simp
  | cons x l ih =>
    cases n with
    | zero => simp
    | succ n =>
      by_cases hx : p x
      · rw [List.filter_cons_of_pos hx, List.take_succ_cons, List.take_succ_cons, List.cons.injEq,
          ih, List.forall_mem_cons]
        exact and_congr_left' (iff_of_true rfl hx)
      · rw [List.take_succ_cons, List.forall_mem_cons]
        refine iff_of_false (fun h => ?_) fun h => hx h.1
        have hmem : x ∈ l.filter p := by
          rw [List.filter_cons_of_neg hx] at h
          exact List.mem_of_mem_take (h ▸ List.mem_cons_self)
        exact hx (List.mem_filter.1 hmem).2

/-- Of the tenant's rows the caller chooses what the rewritten operation does when and only when
what was replaced in `where` is true of that. -/
theorem chosen_scoped_eq_iff (hclient : client.Documented) (hselects : params.action.selects) :
    client.chosen (params.scoped tenantId) rows = client.chosen (params.filled tenantId)
        (rows.filter fun row => client.tenantId row = tenantId) ↔
      ∀ e ∈ params.expandedWhere, e ∉ params.scopedWhere tenantId →
        ∀ row ∈ client.chosen (params.scoped tenantId) rows, client.holds row e.1 e.2 := by
  have hcaller : client.selected (params.filled tenantId).args
      (rows.filter fun row => client.tenantId row = tenantId) =
        (client.selected (params.scoped tenantId).args rows).filter
          (client.selects params.expandedWhere) := by
    rw [PrismaClient.selected, PrismaClient.selected, filled_whereArg, List.filter_filter,
      List.filter_filter]
    refine List.filter_congr fun row _ => ?_
    rw [Bool.eq_iff_iff, Bool.and_eq_true_iff, Bool.and_eq_true_iff, decide_eq_true_iff,
      selects_expandedWhere hclient]
    constructor
    · rintro ⟨hcaller, htenant⟩
      exact ⟨hcaller, selects_scopedWhere hclient hselects htenant hcaller⟩
    · rintro ⟨hcaller, hscoped⟩
      exact ⟨hcaller, tenantId_of_selects hclient hselects hscoped⟩
  have hchosen : client.chosen (params.scoped tenantId) rows =
      client.chosen (params.filled tenantId)
        (rows.filter fun row => client.tenantId row = tenantId) ↔
      ∀ row ∈ client.chosen (params.scoped tenantId) rows,
        client.selects params.expandedWhere row := by
    unfold PrismaClient.chosen
    rw [single_scoped, filled_action, hcaller]
    split_ifs
    · exact eq_comm.trans take_filter_eq_iff
    · exact eq_comm.trans List.filter_eq_self
  have hselected : ∀ row ∈ client.chosen (params.scoped tenantId) rows,
      client.selects (params.scopedWhere tenantId) row := by
    intro row hrow
    unfold PrismaClient.chosen at hrow
    split_ifs at hrow
    · exact (List.mem_filter.1 (List.mem_of_mem_take hrow)).2
    · exact (List.mem_filter.1 hrow).2
  rw [hchosen]
  constructor
  · intro h e he _ row hrow
    exact List.all_eq_true.1 (h row hrow) e he
  · intro h row hrow
    refine List.all_eq_true.2 fun e he => ?_
    by_cases hkept : e ∈ params.scopedWhere tenantId
    · exact List.all_eq_true.1 (hselected row hrow) e hkept
    · exact h e he hkept row hrow

/-- An operation that the client accepts does what the caller's does when and only when it acts on
the same rows and writes the same to them. -/
theorem exec_scoped_eq_iff (hclient : client.Documented) (hselects : params.action.selects)
    (haccepts : client.accepts params) :
    client.exec (params.scoped tenantId) rows = client.exec (params.filled tenantId)
        (rows.filter fun row => client.tenantId row = tenantId) ↔
      (∀ e ∈ params.expandedWhere, e ∉ params.scopedWhere tenantId →
        ∀ row ∈ client.chosen (params.scoped tenantId) rows, client.holds row e.1 e.2) ∧
      (params.action = .upsert → ∀ row ∈ client.chosen (params.scoped tenantId) rows,
        client.updateTouch params.args (mergeDataWithTenant params.args.update tenantId) row =
          client.updateTouch params.args (params.args.update.getD []) row) := by
  rw [← chosen_scoped_eq_iff hclient hselects, ← perform_scoped_iff, PrismaClient.exec,
    PrismaClient.exec, if_pos (accepts_scoped hclient haccepts),
    if_pos (accepts_filled.trans haccepts)]
  constructor
  · intro h
    have hbefore := congrArg (List.filterMap Touch.before) h
    rw [befores_perform (selects_scoped.trans hselects),
      befores_perform (by rw [filled_action]; exact hselects)] at hbefore
    exact ⟨hbefore, h.trans (congrArg _ hbefore.symm)⟩
  · rintro ⟨hchosen, hperform⟩
    exact hperform.trans (congrArg _ hchosen)

/-- The touched rows are of the tenant when and only when the data written and the rows reached
are. -/
theorem own_exec_iff (hclient : client.Documented) :
    (∀ touch ∈ client.exec (params.scoped tenantId) rows,
        (∀ row ∈ touch.before, client.tenantId row = tenantId) ∧
          (∀ row ∈ touch.after, client.tenantId row = tenantId) ∧
            ∀ t ∈ touch.reached, t = tenantId) ↔
      (client.accepts (params.scoped tenantId) → ∀ data ∈ client.written (params.scoped tenantId)
          (client.chosen (params.scoped tenantId) rows),
        ∀ t ∈ client.assigned data, t = tenantId) ∧
      ∀ touch ∈ client.exec (params.scoped tenantId) rows, ∀ t ∈ touch.reached, t = tenantId := by
  have hown : (∀ touch ∈ client.exec (params.scoped tenantId) rows,
      (∀ row ∈ touch.before, client.tenantId row = tenantId) ∧
        ∀ row ∈ touch.after, client.tenantId row = tenantId) ↔
      (client.accepts (params.scoped tenantId) → ∀ data ∈ client.written (params.scoped tenantId)
          (client.chosen (params.scoped tenantId) rows),
        ∀ t ∈ client.assigned data, t = tenantId) := by
    unfold PrismaClient.exec
    split_ifs with haccepts
    · rw [forall_prop_of_true haccepts]
      cases hselects : params.action.selects with
      | true =>
        refine own_perform hclient fun row hrow => ?_
        unfold PrismaClient.chosen at hrow
        split_ifs at hrow
        · exact tenantId_of_selects hclient hselects
            (List.mem_filter.1 (List.mem_of_mem_take hrow)).2
        · exact tenantId_of_selects hclient hselects (List.mem_filter.1 hrow).2
      | false =>
        obtain ⟨hperform, hwritten⟩ := @perform_of_not_selects _ client _
          (selects_scoped.trans hselects) (client.chosen (params.scoped tenantId) rows) []
        rw [hperform, hwritten]
        exact own_perform hclient fun row hrow => absurd hrow List.not_mem_nil
    · exact iff_of_true (fun _ h => absurd h List.not_mem_nil) fun h => absurd h haccepts
  rw [← hown]
  constructor
  · intro h
    exact ⟨fun touch ht => ⟨(h touch ht).1, (h touch ht).2.1⟩, fun touch ht => (h touch ht).2.2⟩
  · rintro ⟨h, hreached⟩ touch ht
    exact ⟨(h touch ht).1, (h touch ht).2, hreached touch ht⟩

/-- The rewritten operation does what the caller's does, or nothing for one that is refused. -/
theorem same_exec_iff (hclient : client.Documented) :
    client.exec (params.scoped tenantId) rows = client.exec (params.filled tenantId)
        (rows.filter fun row => client.tenantId row = tenantId) ↔
      (client.accepts params → params.action.selects → ∀ e ∈ params.expandedWhere,
        e ∉ params.scopedWhere tenantId →
          ∀ row ∈ client.chosen (params.scoped tenantId) rows, client.holds row e.1 e.2) ∧
      (client.accepts params → params.action = .upsert →
        ∀ row ∈ client.chosen (params.scoped tenantId) rows,
          client.updateTouch params.args (mergeDataWithTenant params.args.update tenantId) row =
            client.updateTouch params.args (params.args.update.getD []) row) ∧
      (¬client.accepts params → client.exec (params.scoped tenantId) rows = []) := by
  by_cases haccepts : client.accepts params
  · cases hselects : params.action.selects with
    | true =>
      rw [exec_scoped_eq_iff hclient hselects haccepts]
      simp [haccepts]
    | false =>
      have hupsert : params.action ≠ .upsert := fun h => by rw [h] at hselects; cases hselects
      refine iff_of_true ?_ ⟨fun _ h => (by cases h), fun _ h => absurd h hupsert,
        fun h => absurd haccepts h⟩
      rw [PrismaClient.exec, PrismaClient.exec, if_pos (accepts_scoped hclient haccepts),
        if_pos (accepts_filled.trans haccepts),
        (perform_scoped_iff _).2 fun h => absurd h hupsert]
      exact (perform_of_not_selects (by rw [filled_action]; exact hselects) _ _).1
  · have hnothing : client.exec (params.filled tenantId)
        (rows.filter fun row => client.tenantId row = tenantId) = [] := by
      rw [PrismaClient.exec, accepts_filled, if_neg haccepts]
    rw [hnothing]
    simp [haccepts]

theorem scopingLaw_iff_staysHome {tenantScopedModels : List String} {model : String}
    (hclient : client.Documented) (hmodel : params.model = some model)
    (hscoped : model ∈ tenantScopedModels) (htenant : tenantId ≠ "")
    (hreal : tenantId ≠ superAdminTenantId) :
    ScopingLaw client tenantScopedModels tenantId params rows ↔
      StaysHome client tenantId params rows := by
  have hscope : scopeQuery tenantScopedModels (some tenantId) params = params.scoped tenantId := by
    rw [scopeQuery, if_pos ⟨model, hmodel, hscoped⟩, Option.filter_some,
      if_pos (by simp [htenant, hreal])]
  constructor
  · rintro ⟨hown, hequal⟩
    rw [hscope] at hown hequal
    obtain ⟨hassigned, hreached⟩ := (own_exec_iff hclient).1 hown
    obtain ⟨hreplaced, hmerged, hrefused⟩ := (same_exec_iff hclient).1 hequal
    exact ⟨hreplaced, hmerged, hrefused, hassigned, hreached⟩
  · rintro ⟨hreplaced, hmerged, hrefused, hassigned, hreached⟩
    refine ⟨?_, ?_⟩
    · rw [hscope]
      exact (own_exec_iff hclient).2 ⟨hassigned, hreached⟩
    · rw [hscope]
      exact (same_exec_iff hclient).2 ⟨hreplaced, hmerged, hrefused⟩

/-- Nothing is replaced in a `where` that keeps its entries and names no other tenant. -/
theorem mem_scopedWhere_of_kept (hselects : params.action.selects) {e : String × Value}
    (hkept : e ∈ params.keptWhere) (htenant : e.1 = "tenantId" → e.2 = .text tenantId) :
    e ∈ params.scopedWhere tenantId := by
  by_cases hkey : e.1 = "tenantId"
  · have heq : e = ("tenantId", .text tenantId) := Prod.ext hkey (htenant hkey)
    rw [heq]
    exact tenant_mem_scopedWhere hselects
  · rw [scopedWhere_eq hselects]
    exact mem_upsert_of_key_ne hkept hkey

/-! ### A client -/

/-- A row of a model whose columns are texts. -/
structure TextRow where
  tenantId : String
  columns : List (String × String)
deriving DecidableEq

namespace TextRow

def column (row : TextRow) (key : String) : String :=
  if key = "tenantId" then row.tenantId else ((lookup Prod.fst row.columns key).map Prod.snd).getD ""

mutual

def holds (row : TextRow) (key : String) : Value → Bool
  | .text t => row.column key = t
  | .object entries => decide ('_' ∈ key.toList) && holdsAll row entries
  | _ => false

def holdsAll (row : TextRow) : List (String × Value) → Bool
  | [] => true
  | e :: rest => holdsEntry row e && holdsAll row rest

def holdsEntry (row : TextRow) : String × Value → Bool
  | (key, value) => holds row key value

end

theorem holdsAll_eq (row : TextRow) (entries : Object) :
    row.holdsAll entries = entries.all fun e => row.holds e.1 e.2 := by
  induction entries with
  | nil => simp [holdsAll]
  | cons e rest ih =>
    obtain ⟨key, value⟩ := e
    simp [holdsAll, holdsEntry, ih]

end TextRow

/-- The tenant of data, by the column or by the relation. -/
def assignedTenant (data : Object) : Option String :=
  match data.get "tenantId", data.get "tenant" with
  | .text t, _ => some t
  | _, .object [("connect", .object [("id", .text t)])] => some t
  | _, _ => none

def textColumns (data : Object) : List (String × String) :=
  data.filterMap fun e =>
    match e.2 with
    | .text t => if e.1 = "tenantId" then none else some (e.1, t)
    | _ => none

def textClient : PrismaClient TextRow where
  tenantId := TextRow.tenantId
  holds := TextRow.holds
  unique w := w.any fun e => e.1 = "id" || '_' ∈ e.1.toList
  assigned := assignedTenant
  updated data row := some
    ⟨(assignedTenant data).getD row.tenantId, upsertAll Prod.fst row.columns (textColumns data)⟩
  made data := (assignedTenant data).map fun t => ⟨t, textColumns data⟩
  reached _ _ := []

theorem documented_textClient : textClient.Documented where
  holds_tenantId row t := by
    change row.holds "tenantId" (.text t) = _
    rw [TextRow.holds]
    rfl
  holds_composite row key entries hkey := by
    change row.holds key (.object entries) = _
    rw [TextRow.holds, TextRow.holdsAll_eq, decide_eq_true hkey, Bool.true_and]
    rfl
  assigned_text data t h _ := by
    change assignedTenant data = some t
    rw [assignedTenant, h]
  unique_set w t h := by
    obtain ⟨e, he, hkey⟩ := List.any_eq_true.1 h
    refine List.any_eq_true.2 ⟨e, mem_upsert_of_key_ne he fun heq => ?_, hkey⟩
    rw [show e.1 = "tenantId" from heq] at hkey
    exact absurd hkey (by decide)
  tenantId_updated _ _ _ h := by
    obtain rfl := Option.some.inj h
    rfl
  assigned_made data row h := by
    obtain ⟨t, ht, rfl⟩ := Option.map_eq_some_iff.1 h
    exact ht

/-- A fiscal calendar of each of two tenants. -/
def calendars : List TextRow := [⟨"acme", [("id", "1"), ("name", "gregorian")]⟩,
  ⟨"beta", [("id", "2"), ("name", "gregorian")]⟩]

def calendarByName : Params where
  model := some "FiscalCalendar"
  action := .findUnique
  args :=
    { whereArg :=
        some [("tenantId_name", .object [("tenantId", .text "acme"), ("name", .text "gregorian")])] }

theorem scopingLaw_calendarByName :
    ScopingLaw textClient ["FiscalCalendar"] "acme" calendarByName calendars := by
  refine (scopingLaw_iff_staysHome documented_textClient rfl (List.mem_singleton.2 rfl)
    (by decide) (by decide)).2 ⟨fun _ _ e he hreplaced => ?_, fun _ h => absurd h (by decide),
      fun h => absurd rfl h, ?_, ?_⟩
  · refine absurd (mem_scopedWhere_of_kept rfl he fun hkey => ?_) hreplaced
    rcases List.mem_cons.1 he with rfl | he
    · rfl
    · rw [List.mem_singleton.1 he] at hkey
      exact absurd hkey (by decide)
  · intro _ data hdata
    cases hdata
  · intro touch htouch t ht
    obtain ⟨row, -, rfl⟩ := List.mem_map.1 htouch
    cases ht

/-- A calendar is given to another tenant. -/
def calendarAway : Params where
  model := some "FiscalCalendar"
  action := .update
  args :=
    { whereArg := some [("id", .text "1")]
      data := some (.one [("tenantId", .text "beta")]) }

/-- The data of the update takes the calendar to the tenant that it names. -/
theorem not_scopingLaw_calendarAway :
    textClient.Documented ∧ ¬ScopingLaw textClient ["FiscalCalendar"] "acme" calendarAway calendars := by
  refine ⟨documented_textClient, fun h => ?_⟩
  have hexec : textClient.exec (scopeQuery ["FiscalCalendar"] (some "acme") calendarAway) calendars =
      [⟨some ⟨"acme", [("id", "1"), ("name", "gregorian")]⟩,
        some ⟨"beta", [("id", "1"), ("name", "gregorian")]⟩, []⟩] := by
    decide +kernel
  have hown := h.own _ (hexec ▸ List.mem_singleton_self _)
  exact absurd (hown.2.1 _ rfl) (by decide)

end Forecast.Database
