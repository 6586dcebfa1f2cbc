import RecordQuery.Proofs.Query.Sharing
import RecordQuery.Proofs.Store.Orders

/-!
# Sort fields in the order of their first mention

The order of a query starts as the order that was given last, to the query when it was made or to
one of its scopes since. Every field that is mentioned later without being there goes in at the end.
A field that is there keeps its place and takes the direction that was said last.
-/

namespace RecordQuery

open RecordQuery.Action

/-- What was said about the order of a query: the order that was given last, and the fields that
were mentioned after it with their directions. -/
structure SortHistory where
  given : SortOrder
  mentions : List (String × Direction)

def SaidLast (said : List (String × Direction)) (field : String) (direction : Direction) : Prop :=
  ∃ before after, said = before ++ (field, direction) :: after ∧ ∀ later ∈ after, later.1 ≠ field

namespace SortHistory

variable {history : SortHistory} {sort : SortOrder}

def mention (history : SortHistory) (field : String) (direction : Direction) : SortHistory :=
  { history with mentions := history.mentions ++ [(field, direction)] }

/-- The mentioned fields that were not given, each one at its first mention. -/
def added (history : SortHistory) : List String :=
  (history.mentions.map Prod.fst).eraseDups.filter fun field =>
    !(history.given.map Prod.fst).contains field

/-- An order that a history leads to. The fields that were given come first, in their own order,
and then those that were added. -/
structure LeadsTo (history : SortHistory) (sort : SortOrder) : Prop where
  fields : sort.map Prod.fst = history.given.map Prod.fst ++ history.added
  directions : ∀ entry ∈ sort, SaidLast (history.given ++ history.mentions) entry.1 entry.2

theorem mem_added {field : String} : field ∈ history.added ↔
    field ∈ history.mentions.map Prod.fst ∧ field ∉ history.given.map Prod.fst := by
  simp only [added, List.mem_filter, List.mem_eraseDups, Bool.not_eq_true',
    List.contains_eq_mem, decide_eq_false_iff_not]

/-- A mention adds its field at the end, unless the field is there. -/
theorem fields_mention (history : SortHistory) (field : String) (direction : Direction) :
    (history.mention field direction).given.map Prod.fst ++
        (history.mention field direction).added =
      if field ∈ history.given.map Prod.fst ++ history.added then
        history.given.map Prod.fst ++ history.added
      else history.given.map Prod.fst ++ history.added ++ [field] := by
  have mentioned : (history.mention field direction).added =
      history.added ++ ([field].removeAll (history.mentions.map Prod.fst)).eraseDups.filter
        fun other => !(history.given.map Prod.fst).contains other := by
    simp only [added, mention, List.map_append, List.map_cons, List.map_nil,
      List.eraseDups_append, List.filter_append]
  rw [mentioned]
  simp only [List.mem_append, mem_added]
  by_cases before : field ∈ history.mentions.map Prod.fst <;>
    by_cases listed : field ∈ history.given.map Prod.fst <;>
      simp [before, listed, mention, List.removeAll, List.eraseDups_cons]

theorem saidLast_append {said : List (String × Direction)} {field other : String}
    {old direction : Direction} (last : SaidLast said field old) (apart : field ≠ other) :
    SaidLast (said ++ [(other, direction)]) field old := by
  obtain ⟨before, after, rfl, none⟩ := last
  refine ⟨before, after ++ [(other, direction)], by simp, ?_⟩
  intro later member
  rcases List.mem_append.mp member with member | member
  · exact none later member
  · obtain rfl := List.mem_singleton.mp member
    exact apart.symm

end SortHistory

/-- Setting the direction of a field writes it there and nowhere else. -/
theorem SortOrder.mem_set {sort : SortOrder} (once : sort.Once) {field : String}
    {direction : Direction} {entry : String × Direction}
    (member : entry ∈ sort.set field direction) :
    entry = (field, direction) ∨ entry ∈ sort ∧ entry.1 ≠ field := by
  induction sort with
  | nil => exact .inl (List.mem_singleton.mp member)
  | cons head rest inductionHypothesis =>
      rcases head with ⟨other, old⟩
      obtain ⟨absent, restOnce⟩ := List.nodup_cons.mp once
      rw [set] at member
      split at member
      · rename_i same
        obtain rfl : other = field := by simpa using same
        rcases List.mem_cons.mp member with rfl | later
        · exact .inl rfl
        · refine .inr ⟨List.mem_cons_of_mem _ later, ?_⟩
          intro same
          have listed : entry.1 ∈ rest.map Prod.fst := List.mem_map_of_mem later
          exact absent (same ▸ listed)
      · rename_i apart
        rcases List.mem_cons.mp member with rfl | later
        · exact .inr ⟨List.mem_cons_self, by simpa using apart⟩
        · exact (inductionHypothesis restOnce later).imp_right
            (And.imp_left (List.mem_cons_of_mem _))

namespace SortHistory.LeadsTo

variable {history : SortHistory} {sort : SortOrder}

/-- An order that was given, and nothing said after it. -/
theorem given {sort : SortOrder} (once : sort.Once) : LeadsTo ⟨sort, []⟩ sort := by
  refine ⟨by simp [added], ?_⟩
  intro entry member
  obtain ⟨before, after, rfl⟩ := List.append_of_mem member
  refine ⟨before, after, by simp, ?_⟩
  intro later among same
  rw [SortOrder.Once, List.map_append, List.map_cons, List.nodup_append] at once
  exact (List.nodup_cons.mp once.2.1).1 (same ▸ List.mem_map_of_mem among)

theorem set (leads : history.LeadsTo sort) (once : sort.Once) (field : String)
    (direction : Direction) :
    (history.mention field direction).LeadsTo (sort.set field direction) := by
  constructor
  · rw [SortOrder.fields_set, fields_mention, leads.fields]
  · intro entry member
    rw [mention, ← List.append_assoc]
    rcases SortOrder.mem_set once member with rfl | ⟨old, apart⟩
    · exact ⟨history.given ++ history.mentions, [], rfl, by simp⟩
    · exact saidLast_append (leads.directions entry old) apart

end SortHistory.LeadsTo

/-- The order that a mapping gives: each of its keys, in turn, descends under `-1` and ascends under
the other direction. -/
def Value.givenOrder : Value → SortOrder
  | .mapping entries => entries.map fun entry =>
      (entry.1.text?.getD "", if entry.2.equal (.int (-1)) then .descending else .ascending)
  | _ => []

def Session.Options.givenOrder : Session.Options → SortOrder
  | .value (.mapping options) => ((Entries.get? options "sort").map Value.givenOrder).getD []
  | .value _ => []
  | .snapshot given => given.sort

namespace Session

/-- What a call adds to the history of the order of a query: an order that is assigned or a field
that is mentioned through any mark of the query, if the call succeeds. -/
def heed (session : Session) (root : Mark) (history : SortHistory) : Call → SortHistory
  | .order mark field direction =>
      match (perform (order mark field direction) session).1, field with
      | .ok _, .text name =>
          if session.queries.rootOf mark = root then history.mention name direction else history
      | _, _ => history
  | .assign mark (.sort given) =>
      match (perform (assign mark (.sort given)) session).1 with
      | .ok _ =>
          if session.queries.rootOf mark = root then ⟨given.givenOrder, []⟩ else history
      | .error _ => history
  | _ => history

/-- Sessions in which a query is there, with the history of its order: the query is made, then there
are any calls on it and on other queries, and between them anything that leaves the queries. -/
inductive Traces (root : Mark) : SortHistory → Session → Prop where
  | created {session : Session} {options : Options} :
      Reachable (fun _ => True) session → Call.Proper session.queries (.create options) →
      Call.GivesOrders (.create options) → (perform (create options) session).1 = .ok root →
      Traces root ⟨options.givenOrder, []⟩ ((Call.create options).after session)
  | call {history : SortHistory} {session : Session} {call : Call} :
      Traces root history session → call.Proper session.queries → call.GivesOrders →
      Traces root (session.heed root history call) (call.after session)
  | other {history : SortHistory} {session later : Session} :
      Traces root history session → later.queries = session.queries → Traces root history later

theorem point?_of_equal_int {value : Value} {number : Int}
    (equal : value.equal (.int number) = true) : value.point? = some (.rational number) := by
  rw [Value.equal, Bool.and_eq_true] at equal
  cases Value.Alike.of_same equal.2 with
  | identical => rfl
  | points one other => exact one.trans other.symm

/-- A number that stands for a direction is `-1` exactly if the direction descends. -/
theorem equal_of_ofValue? {value : Value} {direction : Direction}
    (directed : Direction.ofValue? value = some direction) :
    (if value.equal (.int (-1)) then Direction.descending else .ascending) = direction := by
  rw [Direction.ofValue?] at directed
  split at directed
  · split at directed
    · rename_i one
      obtain rfl := Option.some.inj directed
      rw [if_neg]
      intro other
      have first := point?_of_equal_int one
      have second := point?_of_equal_int other
      rw [first, Option.some.injEq, Extended.rational.injEq] at second
      norm_num at second
    · split at directed
      · rename_i other
        obtain rfl := Option.some.inj directed
        rw [if_pos other]
      · contradiction
  · contradiction

theorem givenOrder_of_sortOf? {entries : Entries} {sort : SortOrder}
    (read : Snapshot.sortOf? entries = some sort) : (Value.mapping entries).givenOrder = sort := by
  induction entries generalizing sort with
  | nil => exact Option.some.inj read
  | cons entry rest inductionHypothesis =>
      rcases entry with ⟨key, value⟩
      rw [Snapshot.sortOf?] at read
      split at read
      · rename_i field direction others text directed later
        obtain rfl := Option.some.inj read
        rw [← inductionHypothesis later]
        simp [Value.givenOrder, text, equal_of_ofValue? directed]
      · contradiction

theorem givenOrder_of_checkSort {given : Option Value} {sort : SortOrder}
    (checked : Snapshot.checkSort given = .ok sort) :
    (given.map Value.givenOrder).getD [] = sort := by
  unfold Snapshot.checkSort at checked
  split at checked
  · exact Except.ok.inj checked
  · exact Except.ok.inj checked
  · split at checked
    · contradiction
    · split at checked
      · rename_i read
        rw [← Except.ok.inj checked]
        exact givenOrder_of_sortOf? read
      · contradiction
  · contradiction

theorem givenOrder_of_resolve {options : Options} {snapshot : Snapshot}
    (resolved : options.resolve = .ok snapshot) : options.givenOrder = snapshot.sort := by
  cases options with
  | snapshot given =>
      rw [← Except.ok.inj resolved]
      rfl
  | value value =>
      cases value with
      | null =>
          rw [← Except.ok.inj resolved]
          rfl
      | mapping options =>
          exact givenOrder_of_checkSort (Snapshot.ofEntries_eq_ok resolved).2.2.1
      | _ => contradiction

theorem sort_of_settingChange {given : Value} {revise : Query → Query}
    (checked : QueryStore.settingChange (.sort given) = .ok revise) (query : Query) :
    (revise query).sort = given.givenOrder := by
  simp only [QueryStore.settingChange, ite_eq_iff] at checked
  rcases checked with ⟨-, refused⟩ | ⟨-, checked⟩
  · contradiction
  · obtain ⟨snapshot, read, rfl⟩ := except_map_eq_ok checked
    have sort := givenOrder_of_checkSort (Snapshot.ofEntries_eq_ok read).2.2.1
    simpa [Entries.get?_cons] using sort.symm

def Call.Silent : Call → Prop
  | .order _ _ _ => False
  | .assign _ (.sort _) => False
  | _ => True

theorem heed_of_silent {call : Call} (silent : call.Silent) (session : Session) (root : Mark)
    (history : SortHistory) : session.heed root history call = history := by
  cases call with
  | order => exact silent.elim
  | assign mark setting =>
      cases setting with
      | sort => exact silent.elim
      | _ => rfl
  | _ => rfl

theorem heed_order (session : Session) (root : Mark) (history : SortHistory) (mark : Mark)
    (field : Value) (direction : Direction) :
    session.heed root history (.order mark field direction) =
      match FieldOperation.fieldName field with
      | .ok name =>
          if session.queries.rootOf mark = root then history.mention name direction else history
      | .error _ => history := by
  have performed := perform_order mark field direction session
  cases named : FieldOperation.fieldName field with
  | error failure => simp only [heed, performed, named]
  | ok name =>
      obtain rfl := fieldName_eq_ok named
      simp only [heed, performed, named]

theorem heed_assign (session : Session) (root : Mark) (history : SortHistory) (mark : Mark)
    (given : Value) :
    session.heed root history (.assign mark (.sort given)) =
      match QueryStore.settingChange (.sort given) with
      | .ok _ =>
          if session.queries.rootOf mark = root then ⟨given.givenOrder, []⟩ else history
      | .error _ => history := by
  have performed := perform_assign mark (.sort given) session
  cases checked : QueryStore.settingChange (.sort given) <;> simp only [heed, performed, checked]

section Steps

variable {store later : QueryStore} {root : Mark} {query : Query}

theorem query?_change_of_found (found : store.query? root = some query) (mark : Mark)
    {revise : Query → Query} (rootKept : ∀ query, (revise query).root = query.root) :
    (store.change mark revise).query? root =
      some (if store.rootOf mark = root then revise query else query) := by
  rw [QueryStore.query?_change store mark revise rootKept, found]
  split <;> rfl

theorem Change.keeps_sort {call : Call} (change : Change store call later) (tracked : store.Tracked)
    (silent : call.Silent) (found : store.query? root = some query) :
    ∃ after, later.query? root = some after ∧ after.sort = query.sort := by
  have kept (mark : Mark) {revise : Query → Query}
      (rootKept : ∀ query, (revise query).root = query.root)
      (sortKept : ∀ query, (revise query).sort = query.sort) :
      ∃ after, (store.change mark revise).query? root = some after ∧ after.sort = query.sort := by
    refine ⟨_, query?_change_of_found found mark rootKept, ?_⟩
    split
    · exact sortKept query
    · rfl
  cases change with
  | @created _ snapshot _ =>
      refine ⟨query, ?_, rfl⟩
      rw [tracked.query?_create, if_neg (Nat.ne_of_lt (tracked.rooted _ _ found)), found]
  | @constrained mark _ _ _ _ _ => exact kept mark (fun _ => rfl) fun _ => rfl
  | ordered => exact silent.elim
  | @assigned mark setting revise checked =>
      refine kept mark (fun query => (QueryStore.settingChange_setsState checked query).1) ?_
      cases setting with
      | sort => exact silent.elim
      | fields value =>
          simp only [QueryStore.settingChange, ite_eq_iff] at checked
          rcases checked with ⟨-, refused⟩ | ⟨-, checked⟩
          · contradiction
          · obtain ⟨_, -, rfl⟩ := except_map_eq_ok checked
            exact fun _ => rfl
      | skip value | limit value =>
          obtain ⟨_, -, rfl⟩ := except_map_eq_ok checked
          exact fun _ => rfl
  | @joined mark combinator _ _ _ _ => exact kept _ (fun _ => rfl) fun _ => rfl
  | @opened mark combinator => exact kept _ (fun _ => rfl) fun _ => rfl

end Steps

def Leads (history : SortHistory) (store : QueryStore) (root : Mark) : Prop :=
  ∃ query, store.query? root = some query ∧ query.sort.Once ∧ history.LeadsTo query.sort

theorem Leads.after {history : SortHistory} {session : Session} {root : Mark}
    (leads : Leads history session.queries root) (tracked : session.queries.Tracked) {call : Call}
    (orders : call.GivesOrders) :
    Leads (session.heed root history call) (call.after session).queries root := by
  obtain ⟨query, found, once, described⟩ := leads
  have silently (silent : call.Silent) :
      Leads (session.heed root history call) (call.after session).queries root := by
    rw [heed_of_silent silent]
    rcases call.after_queries session with same | change
    · exact ⟨query, by rw [same, found], once, described⟩
    · obtain ⟨after, there, sort⟩ := change.keeps_sort tracked silent found
      exact ⟨after, there, sort ▸ once, sort ▸ described⟩
  cases call with
  | order mark field direction =>
      rw [heed_order, Call.after, perform_order]
      cases named : FieldOperation.fieldName field with
      | error failure => exact ⟨query, found, once, described⟩
      | ok name =>
          obtain rfl := fieldName_eq_ok named
          refine ⟨_, query?_change_of_found found mark fun _ => rfl, ?_⟩
          by_cases own : session.queries.rootOf mark = root
          · simp only [own, if_true]
            exact ⟨once.set name direction, described.set once name direction⟩
          · simp only [own, if_false]
            exact ⟨once, described⟩
  | assign mark setting =>
      cases setting with
      | sort given =>
          rw [heed_assign, Call.after, perform_assign]
          cases checked : QueryStore.settingChange (.sort given) with
          | error failure => exact ⟨query, found, once, described⟩
          | ok revise =>
              refine ⟨_, query?_change_of_found found mark fun query =>
                (QueryStore.settingChange_setsState checked query).1, ?_⟩
              have fresh := QueryStore.once_settingChange orders checked once
              by_cases own : session.queries.rootOf mark = root
              · simp only [own, if_true]
                rw [sort_of_settingChange checked] at fresh ⊢
                exact ⟨fresh, .given fresh⟩
              · simp only [own, if_false]
                exact ⟨once, described⟩
      | _ => exact silently trivial
  | _ => exact silently trivial

theorem Traces.reachable {root : Mark} {history : SortHistory} {session : Session}
    (traced : Traces root history session) : Reachable (fun _ => True) session := by
  induction traced with
  | created before proper _ _ => exact .call before proper trivial
  | call _ proper _ inductionHypothesis => exact .call inductionHypothesis proper trivial
  | other _ same inductionHypothesis => exact .other inductionHypothesis same

theorem Traces.leads {root : Mark} {history : SortHistory} {session : Session}
    (traced : Traces root history session) : Leads history session.queries root := by
  induction traced with
  | @created session options before _ orders made =>
      rw [Call.after]
      rw [perform_create] at made ⊢
      cases resolved : options.resolve with
      | error failure => simp [resolved] at made
      | ok snapshot =>
          simp only [resolved, Except.ok.injEq] at made ⊢
          subst made
          have once : snapshot.sort.Once := by
            cases options with
            | value value => exact SortOrder.once_of_parse orders resolved
            | snapshot given =>
                obtain rfl := Except.ok.inj resolved
                exact orders
          rw [givenOrder_of_resolve resolved]
          exact ⟨_, before.tracked.query?_create_next snapshot, once, .given once⟩
  | call traced _ orders inductionHypothesis =>
      exact inductionHypothesis.after traced.reachable.tracked orders
  | other _ same inductionHypothesis => rwa [same]

/-- The order of a query, as every scope of it shows it, is the one that was given last, to the
query when it was made or through any of its scopes, followed by the fields that were mentioned
since and are not in it, in the order of their first mention. Each field has the direction that was
said last, which is 1 or -1. -/
theorem orders_follow_first_mention {root : Mark} {history : SortHistory} {session : Session}
    (traced : Traces root history session) {mark : Mark}
    (scope : session.queries.rootOf mark = root) :
    history.LeadsTo (session.queries.snapshot mark).sort ∧
      ∀ entry ∈ (session.queries.snapshot mark).sort.toEntries,
        entry.2 = .int 1 ∨ entry.2 = .int (-1) := by
  obtain ⟨query, found, -, described⟩ := traced.leads
  constructor
  · rw [QueryStore.snapshot, scope, found]
    exact described
  · intro entry member
    obtain ⟨⟨field, direction⟩, -, rfl⟩ := List.mem_map.mp member
    cases direction with
    | ascending => exact .inl rfl
    | descending => exact .inr rfl

def rankedOptions : Value := .mapping [(.text "sort", .mapping [(.text "b", .int (-1))])]

/-- A query that was made with an order, and a scope of it. -/
def ranked : Session :=
  (Call.join 0 .and []).after ((Call.create (.value rankedOptions)).after (Session.start ""))

/-- The scope mentions a field and then gives another order. A further one is refused, as `2` is no
direction. -/
def reassigned : Session :=
  (Call.assign 0 (.sort (.mapping [(.text "y", .int 2)]))).after
    ((Call.assign 1 (.sort (.mapping [(.text "x", .int 1), (.text "a", .int (-1))]))).after
      ((Call.order 1 (.text "c") .ascending).after ranked))

def remarked : Session :=
  (Call.order 1 (.text "x") .descending).after
    ((Call.order 0 (.text "z") .ascending).after reassigned)

theorem Traces.step {root : Mark} {history next : SortHistory} {session : Session} {call : Call}
    (traced : Traces root history session) (proper : call.Proper session.queries)
    (orders : call.GivesOrders) (heeded : session.heed root history call = next) :
    Traces root next (call.after session) :=
  heeded ▸ .call traced proper orders

theorem traces_ranked : Traces 0 ⟨[("b", .descending)], []⟩ ranked := by
  have options : Call.GivesOrders (.create (.value rankedOptions)) :=
    Value.Proper.single (.single (.simple rfl))
  have succeeded : (perform (create (.value rankedOptions)) (Session.start "")).1 = .ok 0 := by cbv
  have start : Reachable (fun _ => True) (Session.start "") := .start rfl
  refine Traces.step (Traces.created start (by trivial) options succeeded) ⟨?_, by simp⟩ trivial
    (by cbv)
  cbv

theorem traces_reassigned :
    Traces 0 ⟨[("x", .ascending), ("a", .descending)], []⟩ reassigned := by
  have first : (Value.mapping [(.text "x", .int 1), (.text "a", .int (-1))]).Proper :=
    @Value.Proper.named _ .int [("x", 1), ("a", -1)] (by decide) fun _ _ => .simple rfl
  have second : (Value.mapping [(.text "y", .int 2)]).Proper := .single (.simple rfl)
  refine Traces.step (Traces.step (traces_ranked.step ?_ trivial rfl) ?_ first rfl) ?_ second ?_
  · change 1 < _
    cbv
  · change 1 < _
    cbv
  · change 0 < _
    cbv
  · cbv

/-- The fields that were given keep their places, also the one that is mentioned again, and the
field that was mentioned before the order was given is gone. -/
theorem given_order_is_extended :
    Traces 0 ⟨[("x", .ascending), ("a", .descending)], [("z", .ascending), ("x", .descending)]⟩
      remarked ∧
    remarked.queries.rootOf 1 = 0 ∧
    SortHistory.LeadsTo
      ⟨[("x", .ascending), ("a", .descending)], [("z", .ascending), ("x", .descending)]⟩
      (remarked.queries.snapshot 1).sort ∧
    (remarked.queries.snapshot 1).sort =
      [("x", .descending), ("a", .descending), ("z", .ascending)] := by
  have traced : Traces 0 ⟨[("x", .ascending), ("a", .descending)],
      [("z", .ascending), ("x", .descending)]⟩ remarked := by
    refine Traces.step (traces_reassigned.step ?_ trivial rfl) ?_ trivial (by cbv)
    · change 0 < _
      cbv
    · change 1 < _
      cbv
  have scope : remarked.queries.rootOf 1 = 0 := by cbv
  exact ⟨traced, scope, (orders_follow_first_mention traced scope).1, by cbv⟩

end Session

end RecordQuery
