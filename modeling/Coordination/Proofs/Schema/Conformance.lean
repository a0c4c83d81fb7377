import Coordination.Proofs.Text.Utf8
import Coordination.Schema.Set

/-!
# Conforming requests

A schema asks a few things of a request, one after the other, and a request that does not meet one
of them is refused with the reason of the first one that it does not meet. Here what is asked is
said without the checks: as a list of demands for each kind of request, and for each demand when it
is met and with which reason it is denied. A rule for data that asks for several things asks for all
of them, from left to right, however deep they are nested. Whatever the reader of documents says of
data that are none stands in the reason.

Which schema a path has is said of the list that the set has been built from: the last schema that
is for just this path, otherwise the first that is for it among those that are not for one path
each, otherwise the fallback, if it has been kept.

## Main definitions

* `DataRule.Admits`, `DataRule.Denies`: what a rule says to data
* `Demand`, `Schema.demands`: what a schema asks of a request
* `SchemaSet.build`, `SchemaSet.governing?`: the set of some schemas, and the schema of a path

## Main results

* `DataRule.check_eq_ok_iff`, `DataRule.check_eq_error_iff`: rules for data do as they say
* `SchemaSet.resolve?_build`: a set finds the schema that governs a path
* `SchemaSet.validateFor_build`: a set accepts the requests that conform, and says of the others
  which demand is the first that they do not meet
-/

namespace Coordination

/-! ## One check after the other -/

section InTurn

variable {α ε : Type} {f : α → Except ε Unit} {x : α} {xs : List α} {e e' : ε} {c : Prop}
  [Decidable c]

theorem ite_eq_ok_iff : (if c then .error e else .ok () : Except ε Unit) = .ok () ↔ ¬ c := by
  split <;> simp_all

theorem ite_eq_error_iff :
    (if c then .error e else .ok () : Except ε Unit) = .error e' ↔ c ∧ e = e' := by
  split <;> simp_all

theorem forM_cons_of_ok (h : f x = .ok ()) : forM (x :: xs) f = forM xs f := by
  rw [List.forM_cons, h]
  rfl

theorem forM_cons_of_error (h : f x = .error e) : forM (x :: xs) f = .error e := by
  rw [List.forM_cons, h]
  rfl

/-- Checks that are made in turn all succeed, or the first that does not has the word. -/
theorem forM_eq_ok_iff : forM xs f = .ok () ↔ ∀ x ∈ xs, f x = .ok () := by
  induction xs with
  | nil => exact iff_of_true rfl (by simp)
  | cons x xs ih =>
    rw [List.forall_mem_cons, ← ih]
    cases hx : f x with
    | error e => simp [forM_cons_of_error hx]
    | ok => simp [forM_cons_of_ok hx]

theorem forM_eq_error_iff :
    forM xs f = .error e ↔
      ∃ before x after, xs = before ++ x :: after ∧ (∀ y ∈ before, f y = .ok ()) ∧
        f x = .error e := by
  constructor
  · intro h
    induction xs with
    | nil => cases h
    | cons x xs ih =>
      cases hx : f x with
      | error e' =>
        rw [forM_cons_of_error hx, Except.error.injEq] at h
        exact ⟨[], x, xs, rfl, by simp, h ▸ hx⟩
      | ok =>
        rw [forM_cons_of_ok hx] at h
        obtain ⟨before, y, after, rfl, hbefore, hy⟩ := ih h
        exact ⟨x :: before, y, after, rfl, List.forall_mem_cons.mpr ⟨hx, hbefore⟩, hy⟩
  · rintro ⟨before, x, after, rfl, hbefore, hx⟩
    induction before with
    | nil => exact forM_cons_of_error hx
    | cons y before ih =>
      obtain ⟨hy, hbefore⟩ := List.forall_mem_cons.mp hbefore
      exact (forM_cons_of_ok hy).trans (ih hbefore)

end InTurn

/-! ## Properties -/

namespace Allowance

/-- Whether a node may have a property, or be without it. -/
def Admits : Allowance → Bool → Prop
  | can, _ => True
  | must, has => has = true
  | cannot, has => has = false

/-- The reason why a node may not have a property, or not be without it. -/
inductive Denies (property : String) : Allowance → Bool → String → Prop where
  | must : Denies property .must false ("must be " ++ property)
  | cannot : Denies property .cannot true ("cannot be " ++ property)

variable {a : Allowance} {has : Bool} {property reason : String}

theorem check_eq_ok_iff : a.check has property = .ok () ↔ a.Admits has := by
  cases a <;> cases has <;> simp [check, Admits]

theorem check_eq_error_iff :
    a.check has property = .error reason ↔ Denies property a has reason := by
  constructor
  · intro h
    cases a <;> cases has <;> simp only [check, reduceCtorEq, Except.error.injEq] at h
    all_goals
      subst h
      constructor
  · intro h
    cases h <;> rfl

end Allowance

/-! ## Data -/

namespace DataRule

/-- **The data that a rule allows.** -/
inductive Admits (data : ByteArray) : DataRule → Prop where
  | any : Admits data .any
  | atMost {limit : Nat} (h : data.size ≤ limit) : Admits data (.atMost limit)
  | utf8 (h : ∃ text : String, text.toUTF8 = data) : Admits data .utf8
  | json {why : ByteArray → String} (h : isJson data) : Admits data (.json why)
  | all {rules : List DataRule} (h : ∀ r ∈ rules, Admits data r) : Admits data (.all rules)

/-- **The reason why a rule does not allow data.** Of several rules it is that of the first one that
does not allow them. -/
inductive Denies (data : ByteArray) : DataRule → String → Prop where
  | atMost {limit : Nat} (h : limit < data.size) :
      Denies data (.atMost limit)
        ("data is " ++ Text.Decimal.natural data.size ++ " bytes, limit is " ++
          Text.Decimal.natural limit)
  | utf8 {fault : Text.Utf8.Fault} (h : Text.Utf8.firstFault? data = some fault) :
      Denies data .utf8 ("data is not UTF-8: " ++ fault.message)
  | json {why : ByteArray → String} (h : isJson data = false) :
      Denies data (.json why) ("data is not JSON: " ++ why data)
  | all {before after : List DataRule} {r : DataRule} {reason : String}
      (hbefore : ∀ r' ∈ before, Admits data r') (h : Denies data r reason) :
      Denies data (.all (before ++ r :: after)) reason

theorem checkAll_eq_forM (data : ByteArray) (rs : List DataRule) :
    checkAll data rs = forM rs (check data) := by
  induction rs with
  | nil => rfl
  | cons r rs ih =>
    rw [checkAll, ih, List.forM_cons]
    cases check data r <;> rfl

-- Rules are nested in lists, so the recursion is on the size of a rule.
theorem check_eq_ok_iff (data : ByteArray) :
    (r : DataRule) → (check data r = .ok () ↔ Admits data r)
  | .any => iff_of_true (by rw [check]) .any
  | .atMost limit => by
    rw [check, ite_eq_ok_iff, Nat.not_lt]
    exact ⟨.atMost, fun | .atMost h => h⟩
  | .utf8 => by
    have hutf8 : Text.Utf8.firstFault? data = none ↔ ∃ text : String, text.toUTF8 = data :=
      Text.Utf8.firstFault?_eq_none_iff
    rw [check]
    cases hfault : Text.Utf8.firstFault? data with
    | none => exact iff_of_true rfl (.utf8 (hutf8.mp hfault))
    | some fault =>
      refine iff_of_false (by simp) fun | .utf8 h => ?_
      rw [hutf8.mpr h] at hfault
      cases hfault
  | .json why => by
    rw [check]
    cases h : isJson data with
    | true => exact iff_of_true rfl (.json h)
    | false => exact iff_of_false (by simp) fun | .json h' => by simp [h] at h'
  | .all rules => by
    have hrules : ∀ r ∈ rules, (check data r = .ok () ↔ Admits data r) :=
      fun r _ => check_eq_ok_iff data r
    rw [check, checkAll_eq_forM, forM_eq_ok_iff]
    constructor
    · intro h
      exact .all fun r hr => (hrules r hr).mp (h r hr)
    · rintro (_ | _ | _ | _ | h)
      exact fun r hr => (hrules r hr).mpr (h r hr)

theorem check_eq_error_iff (data : ByteArray) :
    (r : DataRule) → {reason : String} → (check data r = .error reason ↔ Denies data r reason)
  | .any, _ => iff_of_false (by simp [check]) nofun
  | .atMost limit, reason => by
    rw [check, ite_eq_error_iff]
    constructor
    · rintro ⟨h, rfl⟩
      exact .atMost h
    · rintro ⟨h⟩
      exact ⟨h, rfl⟩
  | .utf8, reason => by
    rw [check]
    cases hfault : Text.Utf8.firstFault? data with
    | none => exact iff_of_false (by simp) fun | .utf8 h => by simp [hfault] at h
    | some fault =>
      constructor
      · rintro ⟨⟩
        exact .utf8 hfault
      · rintro (_ | h)
        obtain rfl := Option.some.inj (hfault.symm.trans h)
        rfl
  | .json why, reason => by
    rw [check]
    cases h : isJson data with
    | true => exact iff_of_false (by simp) fun | .json h' => by simp [h] at h'
    | false =>
      constructor
      · rintro ⟨⟩
        exact .json h
      · rintro ⟨⟩
        rfl
  | .all rules, reason => by
    have hrules : ∀ r ∈ rules, (check data r = .error reason ↔ Denies data r reason) :=
      fun r _ => check_eq_error_iff data r
    rw [check, checkAll_eq_forM, forM_eq_error_iff]
    constructor
    · rintro ⟨before, r, after, rfl, hbefore, hr⟩
      exact .all (fun r' hr' => (check_eq_ok_iff data r').mp (hbefore r' hr'))
        ((hrules r (by simp)).mp hr)
    · intro h
      cases h with
      | @all before after r _ hbefore h =>
        exact ⟨before, r, after, rfl,
          fun r' hr' => (check_eq_ok_iff data r').mpr (hbefore r' hr'), (hrules r (by simp)).mpr h⟩

end DataRule

/-! ## Access lists -/

/-- Whether a grant lets everybody write. -/
def Grant.IsWorldWrite (g : Grant) : Prop :=
  g.identity = .anyone ∧ g.permissions.contains .write

namespace AclRule

variable {r : AclRule} {acl : Acl} {reason : String}

/-- The access lists that a rule allows. -/
inductive Admits (acl : Acl) : AclRule → Prop where
  | any : Admits acl .any
  | nonEmpty (h : acl ≠ []) : Admits acl .nonEmpty
  | noWorldWrite (h : ∀ g ∈ acl, ¬ g.IsWorldWrite) : Admits acl .noWorldWrite

/-- The reason why a rule does not allow an access list. -/
inductive Denies (acl : Acl) : AclRule → String → Prop where
  | nonEmpty (h : acl = []) : Denies acl .nonEmpty "ACL must not be empty"
  | noWorldWrite {g : Grant} (hg : g ∈ acl) (h : g.IsWorldWrite) :
      Denies acl .noWorldWrite "ACL must not grant world write"

theorem any_isWorldWrite_iff :
    (acl.any fun g => g.identity.isAnyone && g.permissions.contains .write) = true ↔
      ∃ g ∈ acl, g.IsWorldWrite := by
  simp [Grant.IsWorldWrite, Identity.isAnyone]

theorem check_eq_ok_iff : r.check acl = .ok () ↔ Admits acl r := by
  cases r with
  | any => exact iff_of_true rfl .any
  | nonEmpty =>
    rw [check, ite_eq_ok_iff, List.isEmpty_iff]
    exact ⟨.nonEmpty, fun | .nonEmpty h => h⟩
  | noWorldWrite =>
    rw [check, ite_eq_ok_iff, any_isWorldWrite_iff]
    constructor
    · intro h
      exact .noWorldWrite fun g hg hwrite => h ⟨g, hg, hwrite⟩
    · rintro (_ | _ | h) ⟨g, hg, hwrite⟩
      exact h g hg hwrite

theorem check_eq_error_iff : r.check acl = .error reason ↔ Denies acl r reason := by
  cases r with
  | any => exact iff_of_false (by simp [check]) nofun
  | nonEmpty =>
    rw [check, ite_eq_error_iff, List.isEmpty_iff]
    constructor
    · rintro ⟨h, rfl⟩
      exact .nonEmpty h
    · rintro ⟨h⟩
      exact ⟨h, rfl⟩
  | noWorldWrite =>
    rw [check, ite_eq_error_iff, any_isWorldWrite_iff]
    constructor
    · rintro ⟨⟨g, hg, hwrite⟩, rfl⟩
      exact .noWorldWrite hg hwrite
    · rintro (_ | ⟨hg, hwrite⟩)
      exact ⟨⟨_, hg, hwrite⟩, rfl⟩

end AclRule

/-! ## Demands -/

/-- Something that a schema asks of a request. -/
inductive Demand where
  /-- That a node has a property or not, as it may. -/
  | property (allowance : Allowance) (has : Bool) (name : String)
  /-- That data keep a rule. -/
  | data (rule : DataRule) (bytes : ByteArray)
  /-- That an access list keeps a rule. -/
  | acl (rule : AclRule) (grants : Acl)
  /-- That nodes may be deleted. -/
  | deletion (allowed : Bool)

namespace Demand

variable {d : Demand} {reason : String}

/-- **What it takes to meet a demand.** -/
def Met : Demand → Prop
  | property allowance has _ => allowance.Admits has
  | data rule bytes => rule.Admits bytes
  | acl rule grants => rule.Admits grants
  | deletion allowed => allowed = true

/-- **The reason that is given if a demand is not met.** -/
def Fails : Demand → String → Prop
  | property allowance has name, reason => allowance.Denies name has reason
  | data rule bytes, reason => rule.Denies bytes reason
  | acl rule grants, reason => rule.Denies grants reason
  | deletion allowed, reason => allowed = false ∧ reason = "cannot be deleted"

/-- Accepts what meets a demand. -/
def check : Demand → Except String Unit
  | property allowance has name => allowance.check has name
  | data rule bytes => rule.check bytes
  | acl rule grants => rule.check grants
  | deletion allowed => if allowed then .ok () else .error "cannot be deleted"

theorem check_eq_ok_iff : d.check = .ok () ↔ d.Met := by
  cases d with
  | property => exact Allowance.check_eq_ok_iff
  | data rule bytes => exact DataRule.check_eq_ok_iff bytes rule
  | acl => exact AclRule.check_eq_ok_iff
  | deletion allowed => cases allowed <;> simp [check, Met]

theorem check_eq_error_iff : d.check = .error reason ↔ d.Fails reason := by
  cases d with
  | property => exact Allowance.check_eq_error_iff
  | data rule bytes => exact DataRule.check_eq_error_iff bytes rule
  | acl => exact AclRule.check_eq_error_iff
  | deletion allowed => cases allowed <;> simp [check, Fails, @eq_comm _ reason]

end Demand

namespace Schema

/-- What a schema asks of the creation of a node. -/
def creationDemands (s : Schema) (mode : CreateMode) (data : ByteArray) (acl : Acl) :
    List Demand :=
  [.property s.ephemeral mode.isEphemeral "ephemeral",
    .property s.sequential mode.isSequential "sequential", .data s.data data, .acl s.acl acl]

/-- **What a schema asks of a request**, in order. -/
def demands (s : Schema) : Request → List Demand
  | .create _ data acl mode => s.creationDemands mode data acl
  | .createContainer _ data acl => s.creationDemands .container data acl
  | .setData _ data _ => [.data s.data data]
  | .delete .. | .deleteContainer _ => [.deletion s.canBeDeleted]
  | .check .. => []

theorem validateCreate_eq (s : Schema) (mode : CreateMode) (p : String) (data : ByteArray)
    (acl : Acl) :
    s.validateCreate mode p data acl =
      s.broken p (forM (s.creationDemands mode data acl) Demand.check) := by
  rw [validateCreate, checkMode, checkContent, creationDemands]
  simp only [List.forM_cons, List.forM_nil, Demand.check]
  -- the checks are made in turn, on both sides
  cases s.ephemeral.check mode.isEphemeral "ephemeral" with
  | error reason => rfl
  | ok =>
    cases s.sequential.check mode.isSequential "sequential" with
    | error reason => rfl
    | ok =>
      cases s.data.check data with
      | error reason => rfl
      | ok => cases s.acl.check acl <;> rfl

/-- A schema makes its demands in turn. -/
theorem validate_eq (s : Schema) (p : String) (r : Request) :
    s.validate p r = s.broken p (forM (s.demands r) Demand.check) := by
  cases r with
  | create q data acl mode => exact validateCreate_eq s mode p data acl
  | createContainer q data acl => exact validateCreate_eq s .container p data acl
  | setData q data version =>
    rw [validate, validateContent, checkContent]
    simp only [demands, List.forM_cons, List.forM_nil, Demand.check]
    cases s.data.check data <;> rfl
  | delete | deleteContainer =>
    rw [validate, validateDelete]
    simp only [demands, List.forM_cons, List.forM_nil, Demand.check]
    cases s.canBeDeleted <;> rfl
  | check => rfl

variable {s : Schema} {p : String} {r : Request} {v : Violation}

/-- Demands that are made in turn are all met, or the first that is not is the violation. -/
theorem broken_forM_eq_ok_iff {ds : List Demand} :
    s.broken p (forM ds Demand.check) = .ok () ↔ ∀ d ∈ ds, d.Met := by
  have hmet : (∀ d ∈ ds, d.Met) ↔ forM ds Demand.check = .ok () := by
    simp only [forM_eq_ok_iff, Demand.check_eq_ok_iff]
  rw [hmet]
  cases forM ds Demand.check <;> simp [broken]

theorem broken_forM_eq_error_iff {ds : List Demand} :
    s.broken p (forM ds Demand.check) = .error v ↔
      ∃ before d after reason, ds = before ++ d :: after ∧ (∀ d' ∈ before, d'.Met) ∧
        d.Fails reason ∧ v = ⟨s.name, p, reason⟩ := by
  have hbroken : s.broken p (forM ds Demand.check) = .error v ↔
      ∃ reason, forM ds Demand.check = .error reason ∧ v = ⟨s.name, p, reason⟩ := by
    cases forM ds Demand.check <;> simp [broken, @eq_comm _ v]
  rw [hbroken]
  simp only [forM_eq_error_iff, Demand.check_eq_ok_iff, Demand.check_eq_error_iff]
  constructor
  · rintro ⟨reason, ⟨before, d, after, hsplit, hbefore, hd⟩, hv⟩
    exact ⟨before, d, after, reason, hsplit, hbefore, hd, hv⟩
  · rintro ⟨before, d, after, reason, hsplit, hbefore, hd, hv⟩
    exact ⟨reason, ⟨before, d, after, hsplit, hbefore, hd⟩, hv⟩

theorem validate_eq_ok_iff : s.validate p r = .ok () ↔ ∀ d ∈ s.demands r, d.Met := by
  rw [validate_eq, broken_forM_eq_ok_iff]

theorem validate_eq_error_iff :
    s.validate p r = .error v ↔
      ∃ before d after reason, s.demands r = before ++ d :: after ∧ (∀ d' ∈ before, d'.Met) ∧
        d.Fails reason ∧ v = ⟨s.name, p, reason⟩ := by
  rw [validate_eq, broken_forM_eq_error_iff]

end Schema

/-! ## The schema of a path -/

/-- The path that a matcher is for, if it is for one path. -/
def Matcher.path? : Matcher → Option String
  | exact p => some p
  | pattern _ | any => none

namespace SchemaSet

variable {schemas : List Schema} {kept : Bool} {p : String} {r : Request}

/-- The set of some schemas, with the fallback or without it. -/
def build (schemas : List Schema) (kept : Bool) : SchemaSet :=
  if kept then ofList schemas else (ofList schemas).strict

/-- **The schema that governs a path**: the last one that is for just this path, otherwise the first
one that is for it among those that are not for one path each, otherwise the fallback, if it has
been kept. -/
def governing? (schemas : List Schema) (kept : Bool) (p : String) : Option Schema :=
  (schemas.reverse.find? fun s => s.matcher.path? == some p).or
    ((schemas.find? fun s => s.matcher.path?.isNone && s.matcher.covers p).or
      (if kept then some .fallback else none))

theorem exact_foldl_add (set : SchemaSet) (schemas : List Schema) (p : String) :
    (schemas.foldl add set).exact[p]? =
      (schemas.reverse.find? fun s => s.matcher.path? == some p).or set.exact[p]? := by
  induction schemas generalizing set with
  | nil => rfl
  | cons s schemas ih =>
    -- a schema that comes later has already replaced this one
    rw [List.foldl_cons, ih, List.reverse_cons, List.find?_append, Option.or_assoc]
    congr 1
    cases hmatcher : s.matcher with
    | exact q =>
      simp only [add, hmatcher, Std.ExtTreeMap.getElem?_insert, List.find?_cons, Matcher.path?]
      by_cases hq : q = p
      · simp [hq]
      · have hbeq : (q == p) = false := beq_eq_false_iff_ne.mpr hq
        simp [hq, hbeq]
    | pattern | any => simp [add, hmatcher, Matcher.path?]

theorem others_foldl_add (set : SchemaSet) (schemas : List Schema) :
    (schemas.foldl add set).others =
      set.others ++ schemas.filter fun s => s.matcher.path?.isNone := by
  induction schemas generalizing set with
  | nil => simp
  | cons s schemas ih =>
    rw [List.foldl_cons, ih]
    cases hmatcher : s.matcher <;> simp [add, hmatcher, Matcher.path?]

theorem fallback_foldl_add (set : SchemaSet) (schemas : List Schema) :
    (schemas.foldl add set).fallback = set.fallback := by
  induction schemas generalizing set with
  | nil => rfl
  | cons s schemas ih =>
    rw [List.foldl_cons, ih, add]
    split <;> rfl

theorem resolve?_eq (set : SchemaSet) (p : String) :
    set.resolve? p =
      set.exact[p]?.or ((set.others.find? fun s => s.matcher.covers p).or set.fallback) := by
  rw [resolve?]
  cases set.exact[p]? with
  | some s => rfl
  | none => cases set.others.find? fun s => s.matcher.covers p <;> rfl

/-- **A set finds the schema that governs a path.** -/
theorem resolve?_build (schemas : List Schema) (kept : Bool) (p : String) :
    (build schemas kept).resolve? p = governing? schemas kept p := by
  have hexact : (build schemas kept).exact = (ofList schemas).exact := by cases kept <;> rfl
  have hothers : (build schemas kept).others = (ofList schemas).others := by cases kept <;> rfl
  have hfallback : (build schemas kept).fallback = if kept then some .fallback else none := by
    cases kept with
    | true => exact fallback_foldl_add _ schemas
    | false => rfl
  rw [resolve?_eq, governing?, hexact, hothers, hfallback, ofList, exact_foldl_add,
    others_foldl_add, List.nil_append, List.find?_filter]
  have hempty : (Std.ExtTreeMap.empty : Std.ExtTreeMap String Schema)[p]? = none :=
    Std.ExtTreeMap.getElem?_empty
  simp only [hempty, Option.or_none, Bool.decide_and, Bool.decide_eq_true]

/-- **A set accepts exactly the requests that conform.** Take the set of any schemas, with the
fallback or without it, any path and any request. If no schema governs the path, the request is
refused as one at a path without a schema. Otherwise it is accepted just if it meets everything that
the governing schema asks of it; and if it is refused, the refusal names this schema, the path, and
the reason why the first demand that is not met is not met. -/
theorem validateFor_build (schemas : List Schema) (kept : Bool) (p : String) (r : Request) :
    (governing? schemas kept p = none →
      (build schemas kept).validateFor p r = .error ⟨"", p, "no schema found"⟩) ∧
    ∀ s, governing? schemas kept p = some s →
      ((build schemas kept).validateFor p r = .ok () ↔ ∀ d ∈ s.demands r, d.Met) ∧
      ∀ v, (build schemas kept).validateFor p r = .error v ↔
        ∃ before d after reason, s.demands r = before ++ d :: after ∧ (∀ d' ∈ before, d'.Met) ∧
          d.Fails reason ∧ v = ⟨s.name, p, reason⟩ := by
  have hvalidate : (build schemas kept).validateFor p r =
      match governing? schemas kept p with
      | none => .error (.uncovered p)
      | some s => s.validate p r := by
    rw [validateFor, resolve, resolve?_build]
    cases governing? schemas kept p <;> rfl
  rw [hvalidate]
  refine ⟨fun hnone => ?_, fun s hs => ?_⟩
  · rw [hnone]
    rfl
  · rw [hs]
    exact ⟨Schema.validate_eq_ok_iff, fun v => Schema.validate_eq_error_iff⟩

/-- The schema of a configuration: short JSON that not everybody may replace. Of data that begin
with a letter that no document begins with, the reader says what it has expected. -/
def someSchema : Schema :=
  { Schema.permissive "cfg" (.exact "/cfg") with
    sequential := .cannot
    data := .all [.atMost 4, .all [.utf8, .json fun _ => "expected value at line 1 column 1"]]
    acl := .noWorldWrite }

/-- Some schemas of which the last one replaces the first. -/
def someSchemas : List Schema :=
  [{ Schema.permissive "old" (.exact "/cfg") with canBeDeleted := false },
    { Schema.permissive "rest" .any with ephemeral := .must }, someSchema]

/-- The second half of the second rule for data is broken, and the rule for access lists too. -/
theorem validateFor_build_of_someSchemas :
    let broken : Request := .create "/svc/cfg" "x".toUTF8 .worldOpen .persistent
    governing? someSchemas false "/cfg" = some someSchema ∧
    (build someSchemas false).validateFor "/cfg" broken =
      .error ⟨"cfg", "/cfg", "data is not JSON: expected value at line 1 column 1"⟩ ∧
    (build someSchemas false).validateFor "/cfg" (.delete "/svc/cfg" 0) = .ok () ∧
    (build (someSchemas.drop 2) false).validateFor "/else" broken =
      .error ⟨"", "/else", "no schema found"⟩ := by
  intro broken
  have hgoverns : governing? someSchemas false "/cfg" = some someSchema := rfl
  obtain ⟨-, hvalidate⟩ := validateFor_build someSchemas false "/cfg" broken
  obtain ⟨-, hdelete⟩ := validateFor_build someSchemas false "/cfg" (.delete "/svc/cfg" 0)
  obtain ⟨hnone, -⟩ := validateFor_build (someSchemas.drop 2) false "/else" broken
  refine ⟨hgoverns, ?_, ?_, hnone rfl⟩
  · have hshort : DataRule.Admits "x".toUTF8 (.atMost 4) := .atMost (by decide)
    have hutf8 : DataRule.Admits "x".toUTF8 .utf8 := .utf8 ⟨"x", rfl⟩
    have hjson : DataRule.Denies "x".toUTF8 (.json fun _ => "expected value at line 1 column 1")
        "data is not JSON: expected value at line 1 column 1" :=
      .json (by decide +kernel)
    have hinner := @DataRule.Denies.all _ [.utf8] [] _ _ (by simpa using hutf8) hjson
    have hdata : DataRule.Denies "x".toUTF8 someSchema.data _ :=
      @DataRule.Denies.all _ [.atMost 4] [] _ _ (by simpa using hshort) hinner
    refine ((hvalidate someSchema hgoverns).2 _).mpr
      ⟨[.property .can false "ephemeral", .property .cannot false "sequential"],
        .data someSchema.data "x".toUTF8, [.acl .noWorldWrite .worldOpen], _, rfl, ?_, hdata, rfl⟩
    simp [Demand.Met, Allowance.Admits]
  · exact (hdelete someSchema hgoverns).1.mpr (by simp [Schema.demands, Demand.Met, someSchema,
      Schema.permissive])

end SchemaSet

end Coordination
