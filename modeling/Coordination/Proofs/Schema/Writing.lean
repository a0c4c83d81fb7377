import Coordination.Proofs.Text.Documents
import Coordination.Schema.Definition

/-!
# Definitions and grants that are written and read again

A schema definition can be written at length or in brief: a field with its usual value may be left
out. Either way it is read as the same definition, because what the reader falls back on is what the
writer may leave out, the name of every choice is found again among the names, and no field is
refused as unknown. Grants have no fields to leave out, and keep every bit of their permissions.

## Main definitions

* `SchemaDefinition.brief`: a definition with some of the fields that have their usual values

## Main results

* `SchemaDefinition.ofJson?_brief`, `Grant.ofJson?_toJson`: what is read of what is written
* `definitions_and_grants_come_back`: the round trip through the text
-/

namespace Coordination

open Text

/-! ## Fields -/

namespace Text.Json

variable {α : Type} {x usual : α} {read : Json → Option α} {write : α → Json} {kept : Bool}

/-- A field that may be left out if it has its usual value and is not kept all the same. -/
def unlessUsual [DecidableEq α] (kept : Bool) (usual x : α) (write : α → Json) : Option Json :=
  if x = usual ∧ kept = false then none else some (write x)

theorem withDefault_unlessUsual [DecidableEq α] (h : read (reread (write x)) = some x) :
    withDefault usual read ((unlessUsual kept usual x write).map reread) = some x := by
  unfold unlessUsual
  split
  · rename_i hx
    rw [hx.1]
    rfl
  · exact h

/-- A value that is left out when there is none. -/
theorem withDefault_nullable? {o : Option α}
    (h : ∀ x, o = some x → read (reread (write x)) = some x)
    (hnull : ∀ x, reread (write x) ≠ .null) :
    withDefault none (nullable? read) ((o.map write).map reread) = some o := by
  cases o with
  | none => rfl
  | some x =>
    have hread : nullable? read (reread (write x)) = (read (reread (write x))).map some := by
      unfold nullable?
      split
      · rename_i heq
        exact absurd heq (hnull x)
      · rfl
    exact hread.trans (by rw [h x rfl]; rfl)

/-- A name is found again among the names of its kind. -/
theorem withDefault_choice? [DecidableEq α] {choices : List (String × α)} {name : α → String}
    (h : choices.lookup (name x) = some x) :
    withDefault usual (choice? choices)
      ((unlessUsual kept usual x fun a => ofText (name a)).map reread) = some x := by
  refine withDefault_unlessUsual ?_
  rw [ofText, reread, choice?, text?_reread]
  exact h

end Text.Json

/-! ## Definitions -/

namespace SchemaDefinition

variable {d : SchemaDefinition}

/-- The fields of a definition, those with their usual values left out unless they are kept. -/
def fields (kept : String → Bool) (d : SchemaDefinition) : List (String × Option Json) :=
  [("name", some (.ofText d.name)), ("path", d.path.map .ofText),
    ("pattern", d.pattern.map .ofText),
    ("documentation", Json.unlessUsual (kept "documentation") "" d.documentation .ofText),
    ("ephemeral", Json.unlessUsual (kept "ephemeral") .can d.ephemeral (.ofText ·.name)),
    ("sequential", Json.unlessUsual (kept "sequential") .can d.sequential (.ofText ·.name)),
    ("can_be_deleted", Json.unlessUsual (kept "can_be_deleted") true d.canBeDeleted .bool),
    ("max_data_len", d.maxDataLength.map .ofNat),
    ("data_format", Json.unlessUsual (kept "data_format") .any d.dataFormat (.ofText ·.name)),
    ("acl_policy", Json.unlessUsual (kept "acl_policy") .any d.acl (.ofText ·.name))]

/-- **A definition in brief**: a field with its usual value is left out unless it is kept. A path, a
pattern and a length are left out when there are none. -/
def brief (kept : String → Bool) (d : SchemaDefinition) : Json := .ofFields (d.fields kept)

/-- A definition at length keeps every field. -/
theorem brief_true (d : SchemaDefinition) : d.brief (fun _ => true) = d.toJson := by
  simp [brief, fields, toJson, Json.unlessUsual]

/-- **Whether the greatest length of data can be written**, as a number of 64 bits. -/
def IsWithin (d : SchemaDefinition) : Prop := ∀ n, d.maxDataLength = some n → n ≤ lengthLimit

theorem isWritable_brief (kept : String → Bool) (d : SchemaDefinition) :
    (d.brief kept).IsWritable := by
  have htext : ∀ s, (Json.ofText s).IsWritable := fun s => .string _
  have hunless : ∀ {α : Type} [DecidableEq α] (k : Bool) (usual x : α) (write : α → Json),
      (∀ x, (write x).IsWritable) →
      ∀ v, Json.unlessUsual k usual x write = some v → v.IsWritable := by
    intro α _ k usual x write hwrite v hv
    unfold Json.unlessUsual at hv
    split at hv
    · cases hv
    · exact Option.some.inj hv ▸ hwrite x
  have hmap : ∀ {α : Type} (o : Option α) (write : α → Json), (∀ x, (write x).IsWritable) →
      ∀ v, o.map write = some v → v.IsWritable := by
    intro α o write hwrite v hv
    obtain ⟨x, -, rfl⟩ := Option.map_eq_some_iff.mp hv
    exact hwrite x
  refine Json.isWritable_ofFields ?_
  simp only [fields, List.forall_mem_cons, List.not_mem_nil, false_imp_iff, implies_true, and_true]
  exact ⟨hmap (some d.name) _ htext, hmap _ _ htext, hmap _ _ htext, hunless _ _ _ _ htext,
    hunless _ _ _ _ fun _ => htext _, hunless _ _ _ _ fun _ => htext _, hunless _ _ _ _ .bool,
    hmap _ _ Json.isWritable_ofNat, hunless _ _ _ _ fun _ => htext _,
    hunless _ _ _ _ fun _ => htext _⟩

/-- **A definition in brief is read as the whole definition.** -/
theorem ofJson?_brief (kept : String → Bool) (h : d.IsWithin) :
    ofJson? (Json.reread (d.brief kept)) = some d := by
  have hfields : (Json.reread (d.brief kept)).fields? true fieldNames =
      some ((d.fields kept).map fun f => f.2.map Json.reread) := by
    have hnodup : ((d.fields kept).map (·.1)).Nodup := by
      have hnames : fieldNames.Nodup := by decide
      exact hnames
    exact Json.fields?_ofFields true hnodup
  have htext : ∀ s, Json.text? (Json.reread (.ofText s)) = some s := Json.text?_reread_ofText
  have htextNull : ∀ s, Json.reread (.ofText s) ≠ .null := by
    intro s hs
    simp [Json.ofText, Json.reread] at hs
  have hnatNull : ∀ n, Json.reread (.ofNat n) ≠ .null := by
    intro n hn
    simp [Json.ofNat, Json.ofInt, Json.reread] at hn
  have hname : Json.required Json.text? ((some (Json.ofText d.name)).map Json.reread) =
      some d.name := htext d.name
  have hallowance : ∀ a : Allowance, Allowance.named.lookup a.name = some a := by
    intro a
    cases a <;> decide
  have hdeleted : Json.bool? (Json.reread (.bool d.canBeDeleted)) = some d.canBeDeleted := rfl
  have hformat : DataFormat.named.lookup d.dataFormat.name = some d.dataFormat := by
    cases d.dataFormat <;> decide
  have hacl : AclRule.named.lookup d.acl.name = some d.acl := by
    cases d.acl <;> decide
  rw [ofJson?, hfields]
  simp only [fields, List.map_cons, List.map_nil, Option.bind_eq_bind, Option.pure_def, hname,
    Json.withDefault_nullable? (fun s _ => htext s) htextNull,
    Json.withDefault_nullable? (fun n hn => Json.natural?_reread_ofNat (h n hn)) hnatNull,
    Json.withDefault_unlessUsual (htext d.documentation),
    Json.withDefault_choice? (hallowance d.ephemeral),
    Json.withDefault_choice? (hallowance d.sequential),
    Json.withDefault_unlessUsual hdeleted,
    Json.withDefault_choice? hformat, Json.withDefault_choice? hacl, Option.bind_some]

end SchemaDefinition

/-! ## Grants -/

theorem Grant.isWritable_toJson (g : Grant) : g.toJson.IsWritable := by
  have hidentity : g.identity.toJson.IsWritable := by
    refine Json.isWritable_ofFields ?_
    simp only [List.forall_mem_cons, List.not_mem_nil, false_imp_iff, implies_true, and_true]
    exact ⟨by rintro v ⟨⟩; exact .string _, by rintro v ⟨⟩; exact .string _⟩
  refine Json.isWritable_ofFields ?_
  simp only [List.forall_mem_cons, List.not_mem_nil, false_imp_iff, implies_true, and_true]
  exact ⟨by rintro v ⟨⟩; exact Json.isWritable_ofNat _, by rintro v ⟨⟩; exact hidentity⟩

theorem Identity.ofJson?_toJson (i : Identity) : ofJson? (Json.reread i.toJson) = some i := by
  have hfields : (Json.reread i.toJson).fields? false ["scheme", "id"] =
      some [some (Json.reread (.ofText i.scheme)), some (Json.reread (.ofText i.id))] :=
    Json.fields?_ofFields false (by simp)
  rw [ofJson?, hfields]
  simp [Json.required]

theorem Permissions.ofJson?_toJson (p : Permissions) : ofJson? (Json.reread p.toJson) = some p := by
  have hbits : p.bits.toNat ≤ UInt32.size - 1 := Nat.le_pred_of_lt p.bits.toNat_lt
  rw [ofJson?, toJson, Json.natural?_reread_ofNat hbits, Option.map_some, UInt32.ofNat_toNat]

theorem Grant.ofJson?_toJson (g : Grant) : ofJson? (Json.reread g.toJson) = some g := by
  have hfields : (Json.reread g.toJson).fields? false ["perms", "id"] =
      some [some (Json.reread g.permissions.toJson), some (Json.reread g.identity.toJson)] :=
    Json.fields?_ofFields false (by simp)
  rw [ofJson?, hfields]
  simp [Json.required, Permissions.ofJson?_toJson, Identity.ofJson?_toJson]

/-! ## Round trips -/

/-- **Definitions and grants come back from the text that they are written as**, whatever their
strings hold: every definition whose length fits into 64 bits, and every grant, with any bits. -/
theorem definitions_and_grants_come_back :
    (∀ d : SchemaDefinition, d.IsWithin →
      (Json.read? d.toJson.compact).bind SchemaDefinition.ofJson? = some d) ∧
    ∀ g : Grant, (Json.read? g.toJson.compact).bind Grant.ofJson? = some g := by
  refine ⟨fun d hd => ?_, fun g => ?_⟩
  · rw [← d.brief_true, Json.read?_compact (d.isWritable_brief _)]
    exact SchemaDefinition.ofJson?_brief _ hd
  · rw [Json.read?_compact g.isWritable_toJson]
    exact g.ofJson?_toJson

/-- A definition with a quote, a control character and a character outside of ASCII in its strings,
the greatest length, and no value that is usual. -/
def someDefinition : SchemaDefinition :=
  { name := "a\"b\x01\n", path := none, pattern := some "/é\\d+", documentation := "\x7f/\t"
    ephemeral := .must, sequential := .cannot, canBeDeleted := false
    maxDataLength := some 18446744073709551615, dataFormat := .json, acl := .noWorldWrite }

theorem definitions_and_grants_come_back_of_some :
    someDefinition.IsWithin ∧
    (Json.read? someDefinition.toJson.compact).bind SchemaDefinition.ofJson? = some someDefinition ∧
    (Json.read? (Grant.toJson ⟨⟨0xffffffff⟩, ⟨"\x00", "é\\"⟩⟩).compact).bind Grant.ofJson? =
      some ⟨⟨0xffffffff⟩, ⟨"\x00", "é\\"⟩⟩ := by
  have hwithin : someDefinition.IsWithin := by
    rintro n ⟨⟩
    decide
  obtain ⟨hdefinitions, hgrants⟩ := definitions_and_grants_come_back
  exact ⟨hwithin, hdefinitions _ hwithin, hgrants _⟩

end Coordination
