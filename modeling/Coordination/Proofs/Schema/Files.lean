import Coordination.Proofs.Schema.Conformance
import Coordination.Proofs.Schema.Writing
import Mathlib.Data.List.Find

/-!
# What a file of definitions means

A file is an array of definitions, each written at length or in brief. It is refused for the first
definition that has not just one of a path and a pattern, or has a pattern that is no expression.
Otherwise it means what the definitions say, and this is said here of the definitions alone: which
of them governs a path, and what this one asks of a request, its limit of length before its format.

The schemas that the definitions are turned into make the same demands, one rule for data standing
for both; so a set that has been read judges as the definitions do. What the readers of documents
and of expressions say of what they do not read may be anything, and stands where it should.

## Main definitions

* `SchemaDefinition.IsSound`: one path or one pattern, and the pattern an expression
* `SchemaDefinition.demands`: what a definition asks of a request
* `SchemaDefinition.governing?`: the definition that governs a path
* `SchemaSet.written`: the text of a file

## Main results

* `SchemaSet.ofText_written`: which files are read, and what they mean
-/

namespace Coordination

open Text

namespace SchemaDefinition

variable {d : SchemaDefinition} {ds : List SchemaDefinition} {m : Matcher} {s : Schema} {p : String}
  {why : Explanations}

/-! ## Sound definitions -/

/-- **Whether a definition is sound**: it has just one of a path and a pattern, and a pattern that
is an expression. -/
structure IsSound (d : SchemaDefinition) : Prop where
  one : d.path.isSome ≠ d.pattern.isSome
  compiles : ∀ q, d.pattern = some q → (Regex.ofPattern? (Matcher.anchored q)).isSome

/-- What is said of a definition that is not sound. -/
def complaint (d : SchemaDefinition) (why : Explanations) : String :=
  match d.path, d.pattern with
  | none, some q => Matcher.badPattern q why.expression
  | _, _ => "schema '" ++ d.name ++ "' needs exactly one of path or pattern"

/-- The matcher of a definition, if it is sound, and else the complaint. -/
theorem matcher_eq (d : SchemaDefinition) (why : Explanations) :
    (d.IsSound ∧ ∃ m, d.matcher why = .ok m) ∨
      (¬ d.IsSound ∧ d.matcher why = .error (.invalidConfig (d.complaint why))) := by
  rcases hpath : d.path with _ | q <;> rcases hpattern : d.pattern with _ | pattern
  · refine .inr ⟨fun h => h.one (by rw [hpath, hpattern]), ?_⟩
    simp [matcher, complaint, hpath, hpattern]
  · cases hr : Regex.ofPattern? (Matcher.anchored pattern) with
    | none =>
      refine .inr ⟨fun h => ?_, ?_⟩
      · have hcompiles := h.compiles pattern hpattern
        rw [hr] at hcompiles
        cases hcompiles
      · simp [matcher, Matcher.ofPattern, complaint, hpath, hpattern, hr]
    | some r =>
      refine .inl ⟨⟨by simp [hpath, hpattern], fun q hq => ?_⟩, .pattern r, ?_⟩
      · obtain rfl := Option.some.inj (hpattern.symm.trans hq)
        rw [hr]
        rfl
      · simp [matcher, Matcher.ofPattern, hpath, hpattern, hr]
  · refine .inl ⟨⟨by simp [hpath, hpattern], fun q hq => ?_⟩, .exact q, ?_⟩
    · rw [hpattern] at hq
      cases hq
    · simp [matcher, hpath, hpattern]
  · refine .inr ⟨fun h => h.one (by rw [hpath, hpattern]; rfl), ?_⟩
    simp [matcher, complaint, hpath, hpattern]

/-- The schema of a definition that is for the paths of a matcher. -/
def schemaFor (d : SchemaDefinition) (why : Explanations) (m : Matcher) : Schema where
  name := d.name
  matcher := m
  documentation := d.documentation
  ephemeral := d.ephemeral
  sequential := d.sequential
  canBeDeleted := d.canBeDeleted
  data := d.dataRule why
  acl := d.acl

/-- The schema of a sound definition. -/
def toSchema (why : Explanations) (d : SchemaDefinition) : Schema :=
  d.schemaFor why (match d.matcher why with
    | .ok m => m
    | .error _ => .any)

theorem schema_of_sound (h : d.IsSound) : d.schema why = .ok (d.toSchema why) := by
  obtain ⟨-, m, hm⟩ := (matcher_eq d why).resolve_right fun h' => h'.1 h
  rw [schema, toSchema, hm]
  rfl

theorem schema_of_not_sound (h : ¬ d.IsSound) :
    d.schema why = .error (.invalidConfig (d.complaint why)) := by
  obtain ⟨-, hm⟩ := (matcher_eq d why).resolve_left fun h' => h h'.1
  rw [schema, hm]

/-! ## Demands -/

/-- What a definition asks of data: the length before the format. -/
def dataDemands (d : SchemaDefinition) (why : Explanations) (data : ByteArray) : List Demand :=
  (match d.maxDataLength with
    | none => []
    | some n => [.data (.atMost n) data]) ++
  match d.dataFormat with
  | .any => []
  | .utf8 => [.data .utf8 data]
  | .json => [.data (.json why.document) data]

/-- What a definition asks of the creation of a node. -/
def creationDemands (d : SchemaDefinition) (why : Explanations) (mode : CreateMode)
    (data : ByteArray) (acl : Acl) : List Demand :=
  [.property d.ephemeral mode.isEphemeral "ephemeral",
    .property d.sequential mode.isSequential "sequential"] ++ d.dataDemands why data ++
      [.acl d.acl acl]

/-- **What a definition asks of a request**, in order. -/
def demands (d : SchemaDefinition) (why : Explanations) : Request → List Demand
  | .create _ data acl mode => d.creationDemands why mode data acl
  | .createContainer _ data acl => d.creationDemands why .container data acl
  | .setData _ data _ => d.dataDemands why data
  | .delete .. | .deleteContainer _ => [.deletion d.canBeDeleted]
  | .check .. => []

/-- The rules for data that a definition puts together. -/
theorem dataDemands_eq (d : SchemaDefinition) (why : Explanations) (data : ByteArray) :
    d.dataDemands why data =
      (d.maxDataLength.toList.map DataRule.atMost ++ d.dataFormat.rules why.document).map
        (.data · data) := by
  unfold dataDemands
  cases d.maxDataLength <;> cases d.dataFormat <;> rfl

theorem forM_data (rules : List DataRule) (data : ByteArray) :
    forM (rules.map (.data · data)) Demand.check = forM rules (DataRule.check data) := by
  induction rules with
  | nil => rfl
  | cons r rules ih =>
    rw [List.map_cons, List.forM_cons, List.forM_cons, ih]
    rfl

theorem forM_singleton {α : Type} (x : α) (f : α → Except String Unit) : forM [x] f = f x := by
  rw [List.forM_cons]
  cases f x <;> rfl

/-- One rule for data stands for all that a definition asks of them. -/
theorem check_dataRule (d : SchemaDefinition) (why : Explanations) (data : ByteArray) :
    (d.dataRule why).check data = forM (d.dataDemands why data) Demand.check := by
  rw [dataDemands_eq, forM_data, dataRule]
  split
  · rename_i hnil
    rw [hnil, DataRule.check]
    rfl
  · rename_i r hone
    rw [hone, forM_singleton]
  · rw [DataRule.check, DataRule.checkAll_eq_forM]

/-- **The schema of a definition demands what the definition does.** -/
theorem forM_demands (d : SchemaDefinition) (why : Explanations) (m : Matcher) (r : Request) :
    forM ((d.schemaFor why m).demands r) Demand.check =
      forM (d.demands why r) Demand.check := by
  have hcreation : ∀ mode data acl,
      forM ((d.schemaFor why m).creationDemands mode data acl) Demand.check =
        forM (d.creationDemands why mode data acl) Demand.check := by
    intro mode data acl
    have hlist : (d.schemaFor why m).creationDemands mode data acl =
        [.property d.ephemeral mode.isEphemeral "ephemeral",
          .property d.sequential mode.isSequential "sequential"] ++
        ([.data (d.dataRule why) data] ++ [.acl d.acl acl]) := rfl
    have hrule : forM [Demand.data (d.dataRule why) data] Demand.check =
        forM (d.dataDemands why data) Demand.check :=
      (forM_singleton _ _).trans (d.check_dataRule why data)
    rw [hlist, creationDemands, List.append_assoc, List.forM_append, List.forM_append,
      List.forM_append, List.forM_append, hrule]
  cases r with
  | create q data acl mode => exact hcreation mode data acl
  | createContainer q data acl => exact hcreation .container data acl
  | setData q data version =>
    exact (forM_singleton _ _).trans (d.check_dataRule why data)
  | delete | deleteContainer | check => rfl

/-! ## The definition of a path -/

/-- Whether a definition is for one path. -/
def isFor (p : String) (d : SchemaDefinition) : Bool := d.path == some p

/-- Whether a definition has a pattern in whose expression a path is found. -/
def coversByPattern (p : String) (d : SchemaDefinition) : Bool :=
  (d.pattern.bind fun q => Regex.ofPattern? (Matcher.anchored q)).any (·.search p)

/-- **The definition that governs a path**: the last one that is for just this path, otherwise the
first one whose pattern covers it. -/
def governing? (ds : List SchemaDefinition) (p : String) : Option SchemaDefinition :=
  (ds.reverse.find? (isFor p)).or (ds.find? (coversByPattern p))

theorem matcher_toSchema (h : d.IsSound) (p : String) :
    ((d.toSchema why).matcher.path? == some p) = d.isFor p ∧
      ((d.toSchema why).matcher.path?.isNone && (d.toSchema why).matcher.covers p) =
        d.coversByPattern p := by
  unfold isFor coversByPattern
  rcases hpath : d.path with _ | q <;> rcases hpattern : d.pattern with _ | pattern
  · exact absurd (by rw [hpath, hpattern]) h.one
  · obtain ⟨r, hr⟩ := Option.isSome_iff_exists.mp (h.compiles pattern hpattern)
    simp [toSchema, schemaFor, matcher, Matcher.ofPattern, Matcher.path?, Matcher.covers, hpath,
      hpattern, hr]
  · simp [toSchema, schemaFor, matcher, Matcher.path?, hpath, hpattern]
  · exact absurd (by rw [hpath, hpattern]; rfl) h.one

/-- **The schemas of definitions govern the paths that the definitions do**, and the fallback the
others. -/
theorem governing?_map_toSchema (h : ∀ d ∈ ds, d.IsSound) (p : String) :
    SchemaSet.governing? (ds.map (toSchema why)) true p =
      ((governing? ds p).map (toSchema why)).or (some .fallback) := by
  have hfor : (ds.map (toSchema why)).reverse.find? (fun s => s.matcher.path? == some p) =
      (ds.reverse.find? (isFor p)).map (toSchema why) := by
    rw [← List.map_reverse, List.find?_map]
    congr 1
    exact List.find?_congr fun d hd => (matcher_toSchema (h d (List.mem_reverse.mp hd)) p).1
  have hcovers : (ds.map (toSchema why)).find?
        (fun s => s.matcher.path?.isNone && s.matcher.covers p) =
      (ds.find? (coversByPattern p)).map (toSchema why) := by
    rw [List.find?_map]
    congr 1
    exact List.find?_congr fun d hd => (matcher_toSchema (h d hd) p).2
  rw [SchemaSet.governing?, hfor, hcovers, governing?, if_pos rfl, ← Option.or_assoc, Option.map_or]

end SchemaDefinition

/-! ## Files -/

namespace SchemaSet

open SchemaDefinition

variable {d : SchemaDefinition} {ds before after : List SchemaDefinition} {p : String} {r : Request}
  {why : Explanations}

theorem schemas_of_sound (h : ∀ d ∈ ds, d.IsSound) :
    schemas why ds = .ok (ds.map (toSchema why)) := by
  induction ds with
  | nil => rfl
  | cons d ds ih =>
    obtain ⟨hd, hds⟩ := List.forall_mem_cons.mp h
    rw [schemas, schema_of_sound hd, ih hds]
    rfl

theorem schemas_of_not_sound (hbefore : ∀ d ∈ before, d.IsSound) (h : ¬ d.IsSound) :
    schemas why (before ++ d :: after) = .error (.invalidConfig (d.complaint why)) := by
  induction before with
  | nil =>
    rw [List.nil_append, schemas, schema_of_not_sound h]
  | cons d' before ih =>
    obtain ⟨hd', hbefore⟩ := List.forall_mem_cons.mp hbefore
    rw [List.cons_append, schemas, schema_of_sound hd', ih hbefore]

/-- A list with a definition that is not sound has a first one. -/
theorem exists_first_not_sound (h : ¬ ∀ d ∈ ds, d.IsSound) :
    ∃ before d after, ds = before ++ d :: after ∧ (∀ d' ∈ before, d'.IsSound) ∧ ¬ d.IsSound := by
  classical
  induction ds with
  | nil => exact absurd (by simp) h
  | cons d ds ih =>
    by_cases hd : d.IsSound
    · obtain ⟨before, d', after, rfl, hbefore, hd'⟩ :=
        ih fun hall => h (List.forall_mem_cons.mpr ⟨hd, hall⟩)
      exact ⟨d :: before, d', after, rfl, List.forall_mem_cons.mpr ⟨hd, hbefore⟩, hd'⟩
    · exact ⟨[], d, ds, rfl, by simp, hd⟩

theorem validate_fallback (p : String) (r : Request) : Schema.fallback.validate p r = .ok () := by
  have hdata : ∀ data, DataRule.Admits data .any := fun _ => .any
  have hacl : ∀ acl, AclRule.Admits acl .any := fun _ => .any
  rw [Schema.validate_eq_ok_iff]
  cases r <;>
    simp [Schema.demands, Schema.creationDemands, Schema.fallback, Schema.permissive, Demand.Met,
      Allowance.Admits, hdata, hacl]

/-- The set of sound definitions asks the definition that governs a path, if there is one. -/
theorem validateFor_map_toSchema (h : ∀ d ∈ ds, d.IsSound) (p : String) (r : Request) :
    (ofList (ds.map (toSchema why))).validateFor p r =
      match SchemaDefinition.governing? ds p with
      | none => .ok ()
      | some d => (d.toSchema why).broken p (forM (d.demands why r) Demand.check) := by
  have hresolve : (ofList (ds.map (toSchema why))).resolve? p =
      ((SchemaDefinition.governing? ds p).map (toSchema why)).or (some .fallback) := by
    rw [← governing?_map_toSchema h, ← resolve?_build]
    rfl
  rw [validateFor, resolve, hresolve]
  cases SchemaDefinition.governing? ds p with
  | none => exact validate_fallback p r
  | some d =>
    have hdemands : forM ((d.toSchema why).demands r) Demand.check =
        forM (d.demands why r) Demand.check :=
      d.forM_demands why _ r
    exact (Schema.validate_eq (d.toSchema why) p r).trans
      (congrArg ((d.toSchema why).broken p) hdemands)

/-- **The text of a file with some definitions**: an array of them in which the fields of each
definition that have their usual values are left out, but for those that are kept. -/
def written (kept : Nat → String → Bool) (ds : List SchemaDefinition) : String :=
  Json.compact (.array (ds.mapIdx fun i d => d.brief (kept i)))

/-- A file in which every field is kept is the array of the definitions. -/
theorem written_true (ds : List SchemaDefinition) :
    written (fun _ _ => true) ds = Json.compact (.array (ds.map toJson)) := by
  have hitems : (ds.mapIdx fun _ d => d.brief fun _ => true) = ds.map toJson := by
    calc (ds.mapIdx fun _ d => d.brief fun _ => true)
        = ds.zipIdx.map (toJson ∘ Prod.fst) := by
          simp [List.mapIdx_eq_zipIdx_map, brief_true, Function.comp_def]
      _ = ds.map toJson := by rw [← List.map_map, List.zipIdx_map_fst]
  rw [written, hitems]

theorem rereadItems_eq_map (vs : List Json) : Json.rereadItems vs = vs.map Json.reread := by
  induction vs with
  | nil => rfl
  | cons v vs ih => rw [Json.rereadItems, ih, List.map_cons]

theorem mapM_ofJson?_brief (kept : Nat → String → Bool) (h : ∀ d ∈ ds, d.IsWithin) :
    ((ds.mapIdx fun i d => d.brief (kept i)).map Json.reread).mapM ofJson? = some ds := by
  induction ds generalizing kept with
  | nil => rfl
  | cons d ds ih =>
    obtain ⟨hd, hds⟩ := List.forall_mem_cons.mp h
    rw [List.mapIdx_cons, List.map_cons, List.mapM_cons, ofJson?_brief _ hd,
      ih (fun i => kept (i + 1)) hds]
    rfl

/-- A file is read as its definitions. -/
theorem ofText_eq_ofDefinitions (kept : Nat → String → Bool) (h : ∀ d ∈ ds, d.IsWithin) :
    ofText (written kept ds) why = ofDefinitions why ds := by
  have hwritable : (Json.array (ds.mapIdx fun i d => d.brief (kept i))).IsWritable := by
    refine .array fun v hv => ?_
    obtain ⟨i, hi, rfl⟩ := List.mem_mapIdx.mp hv
    exact isWritable_brief _ _
  have hitems : (Json.reread (.array (ds.mapIdx fun i d => d.brief (kept i)))).items? =
      some ((ds.mapIdx fun i d => d.brief (kept i)).map Json.reread) := by
    rw [Json.reread, Json.items?, rereadItems_eq_map]
  rw [ofText, written, Json.read?_compact hwritable, Option.bind_some, hitems, Option.bind_some,
    mapM_ofJson?_brief kept h]

/-- **A file means what its definitions say.** Take any definitions whose lengths fit into 64 bits,
written as an array in which fields with usual values may be left out, or with all fields kept as
the array of what the definitions are as documents. The file is read just if every definition is
sound; otherwise it is refused as a bad configuration for the first one that is not. If it is read,
a request at a path that no definition governs is accepted, and any other request is judged by the
definition that governs its path: it is accepted just if it meets everything that this definition
asks of it, and a refusal names the definition, the path, and the reason why the first demand that
is not met is not met. What the readers of documents and of expressions say may be anything. -/
theorem ofText_written (why : Explanations) (kept : Nat → String → Bool)
    (ds : List SchemaDefinition) (h : ∀ d ∈ ds, d.IsWithin) :
    written (fun _ _ => true) ds = Json.compact (.array (ds.map toJson)) ∧
    ((∃ set, ofText (written kept ds) why = .ok set) ↔ ∀ d ∈ ds, d.IsSound) ∧
    (∀ before d after, ds = before ++ d :: after → (∀ d' ∈ before, d'.IsSound) → ¬ d.IsSound →
      ofText (written kept ds) why = .error (.invalidConfig (d.complaint why))) ∧
    ∀ set, ofText (written kept ds) why = .ok set → ∀ p r,
      (SchemaDefinition.governing? ds p = none → set.validateFor p r = .ok ()) ∧
      ∀ d, SchemaDefinition.governing? ds p = some d →
        (set.validateFor p r = .ok () ↔ ∀ x ∈ d.demands why r, x.Met) ∧
        ∀ v, set.validateFor p r = .error v ↔
          ∃ before x after reason, d.demands why r = before ++ x :: after ∧
            (∀ y ∈ before, y.Met) ∧ x.Fails reason ∧ v = ⟨d.name, p, reason⟩ := by
  have hrefused : ∀ before d after, ds = before ++ d :: after → (∀ d' ∈ before, d'.IsSound) →
      ¬ d.IsSound →
        ofText (written kept ds) why = .error (.invalidConfig (d.complaint why)) := by
    intro before d after hsplit hbefore hd
    rw [ofText_eq_ofDefinitions kept h, ofDefinitions, hsplit, schemas_of_not_sound hbefore hd]
    rfl
  have hread : (∀ d ∈ ds, d.IsSound) →
      ofText (written kept ds) why = .ok (ofList (ds.map (toSchema why))) := by
    intro hsound
    rw [ofText_eq_ofDefinitions kept h, ofDefinitions, schemas_of_sound hsound]
    rfl
  have hsound : (∃ set, ofText (written kept ds) why = .ok set) → ∀ d ∈ ds, d.IsSound := by
    rintro ⟨set, hset⟩
    by_contra hnot
    obtain ⟨before, d, after, hsplit, hbefore, hd⟩ := exists_first_not_sound hnot
    rw [hrefused before d after hsplit hbefore hd] at hset
    cases hset
  refine ⟨written_true ds, ⟨hsound, fun hall => ⟨_, hread hall⟩⟩, hrefused, fun set hset p r => ?_⟩
  obtain rfl := Except.ok.inj (hset.symm.trans (hread (hsound ⟨set, hset⟩)))
  rw [validateFor_map_toSchema (hsound ⟨_, hset⟩)]
  refine ⟨fun hnone => by rw [hnone], fun d hd => ?_⟩
  rw [hd]
  exact ⟨Schema.broken_forM_eq_ok_iff, fun v => Schema.broken_forM_eq_error_iff⟩

/-- The definition of a configuration: short JSON. -/
def someConfiguration : SchemaDefinition :=
  { name := "cfg", path := some "/cfg", pattern := none, documentation := "", ephemeral := .can
    sequential := .can, canBeDeleted := true, maxDataLength := some 4, dataFormat := .json
    acl := .any }

/-- A definition that covers the path of the configuration as well, for nodes that stay. -/
def someFamily : SchemaDefinition :=
  { someConfiguration with
    name := "all", path := none, pattern := some "/c(fg)?", canBeDeleted := false }

/-- Data that are too long and no JSON either are too long; of short data the reader of documents
says why they are none. A definition with neither a path nor a pattern is found among others. -/
theorem ofText_written_of_someConfiguration :
    let keepNone : Nat → String → Bool := fun _ _ => false
    let why : Explanations := { document := fun _ => "expected value at line 1 column 1" }
    let neither : SchemaDefinition := { someConfiguration with name := "bad", path := none }
    (∀ d ∈ [someFamily, someConfiguration], d.IsWithin) ∧
    (∃ set, ofText (written keepNone [someFamily, someConfiguration]) why = .ok set ∧
      set.validateFor "/cfg" (.setData "/cfg" "tests".toUTF8 0) =
        .error ⟨"cfg", "/cfg", "data is 5 bytes, limit is 4"⟩ ∧
      set.validateFor "/cfg" (.setData "/cfg" "x".toUTF8 0) =
        .error ⟨"cfg", "/cfg", "data is not JSON: expected value at line 1 column 1"⟩ ∧
      set.validateFor "/cfg" (.delete "/cfg" 0) = .ok () ∧
      set.validateFor "/c" (.delete "/c" 0) = .error ⟨"all", "/c", "cannot be deleted"⟩ ∧
      set.validateFor "/" (.delete "/" 0) = .ok ()) ∧
    ofText (written keepNone [someFamily, neither, someConfiguration]) why =
      .error (.invalidConfig "schema 'bad' needs exactly one of path or pattern") := by
  intro keepNone why neither
  have hshort : ∀ d : SchemaDefinition, d.maxDataLength = some 4 → d.IsWithin := by
    intro d hd n hn
    obtain rfl := Option.some.inj (hd.symm.trans hn)
    decide
  have hwithin : ∀ d ∈ [someFamily, someConfiguration], d.IsWithin :=
    List.forall_mem_cons.mpr ⟨hshort _ rfl, List.forall_mem_singleton.mpr (hshort _ rfl)⟩
  have hcompiles : (Regex.ofPattern? (Matcher.anchored "/c(fg)?")).isSome := by decide +kernel
  have hfamily : someFamily.IsSound := ⟨by decide, by rintro _ ⟨⟩; exact hcompiles⟩
  have hconfiguration : someConfiguration.IsSound := ⟨by decide, by rintro _ ⟨⟩⟩
  obtain ⟨-, hread, -, hmeans⟩ := ofText_written why keepNone _ hwithin
  obtain ⟨-, -, hrefused, -⟩ := ofText_written why keepNone
    [someFamily, neither, someConfiguration]
    (List.forall_mem_cons.mpr ⟨hshort _ rfl, List.forall_mem_cons.mpr
      ⟨hshort _ rfl, List.forall_mem_singleton.mpr (hshort _ rfl)⟩⟩)
  obtain ⟨set, hset⟩ := hread.mpr
    (List.forall_mem_cons.mpr ⟨hfamily, List.forall_mem_singleton.mpr hconfiguration⟩)
  refine ⟨hwithin, ⟨set, hset, ?_, ?_, ?_, ?_, ?_⟩, ?_⟩
  · refine (((hmeans set hset "/cfg" _).2 someConfiguration (by decide +kernel)).2 _).mpr
      ⟨[], .data (.atMost 4) "tests".toUTF8, [.data (.json why.document) "tests".toUTF8], _, rfl,
        by simp, ?_, rfl⟩
    exact .atMost (by decide)
  · refine (((hmeans set hset "/cfg" _).2 someConfiguration (by decide +kernel)).2 _).mpr
      ⟨[.data (.atMost 4) "x".toUTF8], .data (.json why.document) "x".toUTF8, [], _, rfl, ?_, ?_,
        rfl⟩
    · exact List.forall_mem_singleton.mpr (.atMost (by decide))
    · exact .json (by decide +kernel)
  · refine ((hmeans set hset "/cfg" _).2 someConfiguration (by decide +kernel)).1.mpr ?_
    simp [SchemaDefinition.demands, Demand.Met, someConfiguration]
  · exact (((hmeans set hset "/c" (.delete "/c" 0)).2 someFamily (by decide +kernel)).2 _).mpr
      ⟨[], .deletion false, [], _, rfl, by simp, ⟨rfl, rfl⟩, rfl⟩
  · exact (hmeans set hset "/" (.delete "/" 0)).1 (by decide +kernel)
  · exact hrefused [someFamily] neither [someConfiguration] rfl
      (List.forall_mem_singleton.mpr hfamily) fun hneither => hneither.one rfl

end SchemaSet

end Coordination
