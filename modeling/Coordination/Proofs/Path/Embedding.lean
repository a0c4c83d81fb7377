import Coordination.Proofs.Client.Containment
import Mathlib.Data.List.TakeWhile

/-!
# Namespaces as embeddings

A namespace puts the tree that a client sees under a node of the store: every path has its own place
there, a node above another one stays above it, and each place leads back to the one path that has
it. Places elsewhere are left alone, also those whose names begin like that of the root. All of this
is said of texts, as they come from callers; in segments, a namespace puts those of its root before
the others and takes them off again.

Which names a namespace can have is said without the trimming: a name is slashes, then something
that neither begins nor ends with a slash, and then slashes again.

## Main definitions

* `Path.IsBetweenSlashes`: what stands between the slashes at either end of a text
* `Namespace.Embeds`: fixing is an embedding, and unfixing its inverse

## Main results

* `Namespace.contains_iff_precedes`: what starts with the root and a slash is below the root
* `Namespace.embeds_of_ofName?`: namespaces embed
* `Namespace.ofName_embeds`: the names that there are, and that their namespaces embed
-/

namespace Coordination

/-! ## Texts between slashes -/

namespace Path

variable {cs core : List Char} {rs ts : List (List Char)}

/-- **Whether characters stand between the slashes at either end of a text**, with no slash of their
own at either end. -/
def IsBetweenSlashes (core cs : List Char) : Prop :=
  ∃ i j, cs = List.replicate i '/' ++ core ++ List.replicate j '/' ∧
    core.head? ≠ some '/' ∧ core.getLast? ≠ some '/'

theorem dropWhile_replicate_slash (i : Nat) (cs : List Char) :
    (List.replicate i '/' ++ cs).dropWhile (· == '/') = cs.dropWhile (· == '/') := by
  refine List.dropWhile_append_of_pos fun c hc => ?_
  simp [List.eq_of_mem_replicate hc]

/-- The slashes that a text begins with, and the rest of it. -/
theorem exists_replicate_slash (cs : List Char) :
    ∃ i, cs = List.replicate i '/' ++ cs.dropWhile (· == '/') := by
  refine ⟨(cs.takeWhile (· == '/')).length, ?_⟩
  have hslashes : cs.takeWhile (· == '/') =
      List.replicate (cs.takeWhile (· == '/')).length '/' := by
    refine List.eq_replicate_of_mem fun c hc => ?_
    simpa using List.mem_takeWhile_imp hc
  rw [← hslashes, List.takeWhile_append_dropWhile]

theorem head?_dropWhile_slash (cs : List Char) :
    (cs.dropWhile (· == '/')).head? ≠ some '/' := by
  intro h
  have hnot := List.head?_dropWhile_not (· == '/') cs
  rw [h] at hnot
  simp at hnot

/-- **Trimming finds what stands between the slashes.** -/
theorem isBetweenSlashes_iff : IsBetweenSlashes core cs ↔ trimRight (trimLeft cs) = core := by
  constructor
  · rintro ⟨i, j, rfl, hhead, hlast⟩
    have hrest : trimLeft (List.replicate i '/' ++ core ++ List.replicate j '/') =
        if core = [] then [] else core ++ List.replicate j '/' := by
      rw [trimLeft, List.append_assoc, dropWhile_replicate_slash]
      split
      · rename_i hnil
        have hslashes := dropWhile_replicate_slash j []
        rw [List.append_nil] at hslashes
        rw [hnil, List.nil_append, hslashes]
        rfl
      · rename_i hne
        refine dropWhile_slash ?_
        rwa [List.head?_append_of_ne_nil _ hne]
    rw [hrest]
    split
    · rename_i hnil
      rw [hnil]
      rfl
    · rw [trimRight, List.reverse_append, List.reverse_replicate, dropWhile_replicate_slash,
        dropWhile_slash (by rwa [List.head?_reverse]), List.reverse_reverse]
  · rintro rfl
    obtain ⟨i, hi⟩ := exists_replicate_slash cs
    obtain ⟨j, hj⟩ := exists_replicate_slash (trimLeft cs).reverse
    have hrest : trimLeft cs = trimRight (trimLeft cs) ++ List.replicate j '/' := by
      rw [← List.reverse_inj, List.reverse_append, List.reverse_replicate, trimRight,
        List.reverse_reverse]
      exact hj
    refine ⟨i, j, ?_, ?_, ?_⟩
    · rw [List.append_assoc, ← hrest]
      exact hi
    · intro h
      refine head?_dropWhile_slash cs ?_
      rw [← trimLeft, hrest, List.head?_append, h]
      rfl
    · rw [trimRight, List.getLast?_reverse]
      exact head?_dropWhile_slash _

theorem isBetweenSlashes_nil_iff : IsBetweenSlashes [] cs ↔ ∀ c ∈ cs, c = '/' := by
  constructor
  · rintro ⟨i, j, rfl, -, -⟩ c hc
    rw [List.append_nil, List.replicate_append_replicate] at hc
    exact List.eq_of_mem_replicate hc
  · intro h
    exact ⟨cs.length, 0, by simpa using List.eq_replicate_of_mem h, by simp, by simp⟩

/-! ## Below a node -/

/-- A text that begins with segments and a slash has these segments. -/
theorem prefix_of_chain (hrs : ∀ t ∈ rs, isSegment t) (hts : ∀ t ∈ ts, isSegment t)
    (h : chain rs ++ '/' :: cs = chain ts) : rs <+: ts := by
  induction rs generalizing ts with
  | nil => exact List.nil_prefix
  | cons r rs ih =>
    obtain ⟨hr, hrs⟩ := List.forall_mem_cons.mp hrs
    cases ts with
    | nil => simp at h
    | cons t ts =>
      obtain ⟨ht, hrest⟩ := List.forall_mem_cons.mp hts
      have hchars : r ++ (chain rs ++ '/' :: cs) = t ++ chain ts := by
        simpa [List.append_assoc] using h
      -- a segment ends at the first slash
      have hsplit : ∀ s, isSegment s → ∀ us : List Char, us.head?.all (· == '/') →
          (s ++ us).takeWhile (· != '/') = s := by
        intro s hs us hus
        rw [List.takeWhile_append_of_pos fun c hc =>
          by simpa using fun heq : c = '/' => slash_notMem_of_isSegment hs (heq ▸ hc)]
        cases us with
        | nil => simp
        | cons u us =>
          obtain rfl : u = '/' := by simpa using hus
          simp
      have hhead : ∀ ss : List (List Char), ∀ us : List Char, us.head?.all (· == '/') →
          (chain ss ++ us).head?.all (· == '/') := by
        intro ss us hus
        cases ss with
        | nil => exact hus
        | cons s ss => simp
      have hrt : r = t := by
        rw [← hsplit r hr (chain rs ++ '/' :: cs) (hhead rs _ (by simp)), hchars,
          hsplit t ht (chain ts) (by simpa using hhead ts [] (by simp))]
      subst hrt
      rw [List.append_right_inj] at hchars
      exact List.cons_prefix_cons.mpr ⟨rfl, ih hrs hrest hchars⟩

end Path

/-! ## Embeddings -/

namespace Namespace

open Coordination.Path

variable {n : Namespace} {name q root : String}

/-- **What starts with the root and a slash is below the root**, segment by segment. -/
theorem contains_iff_precedes (h : ofName? name = some n) (hq : isValid q) :
    n.Contains q ↔ Precedes (n.fix Path.root) q := by
  have hn : n.IsWellFormed := isWellFormed_of_ofName? h
  constructor
  · intro hin
    cases hroot : n.root with
    | none =>
      have hfix : n.fix Path.root = Path.root := by rw [fix, hroot]
      rw [hfix]
      exact root_precedes hq
    | some root =>
      have hfix : n.fix Path.root = root := by simp [fix, hroot]
      rw [hfix]
      rcases hin root hroot with rfl | ⟨rest, hrest⟩
      · exact .refl hq
      · obtain ⟨rs, hrs, rfl⟩ := exists_segments (hn root hroot)
        obtain ⟨ts, hts, rfl⟩ := exists_segments hq
        rw [precedes_ofSegments_iff hrs hts]
        by_cases hnil : rs = []
        · rw [hnil]
          exact List.nil_prefix
        · have hts' : ts ≠ [] := by
            rintro rfl
            have hlength := congrArg List.length hrest
            obtain ⟨r, rs, rfl⟩ := List.exists_cons_of_ne_nil hnil
            rw [toList_ofSegments hnil] at hlength
            simp [Path.root] at hlength
          have hchain : chain rs ++ '/' :: rest = chain ts := by
            rw [← toList_ofSegments hts', ← hrest, toList_ofSegments hnil, List.append_assoc]
            rfl
          exact prefix_of_chain hrs hts hchain
  · intro hbelow
    obtain ⟨p, hp, rfl⟩ := hn.exists_fix_iff.mpr hbelow
    exact contains_fix h hp

/-- **Fixing is an embedding of the paths into those of a namespace, and unfixing its inverse.** -/
structure Embeds (n : Namespace) : Prop where
  /-- A path has a place, which is the root or below it. -/
  isValid_fix : ∀ p, isValid p → isValid (n.fix p) ∧ n.Contains (n.fix p)
  /-- The place leads back to the path. -/
  unfix_fix : ∀ p, isValid p → n.unfix (n.fix p) = p
  /-- No two paths have one place. -/
  fix_injective : ∀ p q, isValid p → isValid q → n.fix p = n.fix q → p = q
  /-- The root and everything below it are the places of paths. -/
  fix_unfix : ∀ q, isValid q → n.Contains q → isValid (n.unfix q) ∧ n.fix (n.unfix q) = q
  /-- Everything else is left as it is. -/
  unfix_outside : ∀ q, isValid q → ¬ n.Contains q → n.unfix q = q
  /-- The node above stays the node above. -/
  parent_fix : ∀ p, isValid p → p ≠ Path.root →
    ∃ above, parent? p = some above ∧ parent? (n.fix p) = some (n.fix above)

theorem embeds_of_ofName? (h : ofName? name = some n) : n.Embeds where
  isValid_fix p hp := ⟨(isWellFormed_of_ofName? h).isValid_fix hp, contains_fix h hp⟩
  unfix_fix p hp := (isWellFormed_of_ofName? h).unfix_fix hp
  fix_injective p q hp hq := ((isWellFormed_of_ofName? h).fix_inj hp hq).mp
  fix_unfix q hq hin := by
    have hn : n.IsWellFormed := isWellFormed_of_ofName? h
    obtain ⟨p, hp, rfl⟩ := hn.exists_fix_iff.mpr ((contains_iff_precedes h hq).mp hin)
    rw [hn.unfix_fix hp]
    exact ⟨hp, rfl⟩
  unfix_outside q _ hout := unfix_of_not_contains hout
  parent_fix p hp hne := by
    obtain ⟨above, habove⟩ := exists_parent? hp hne
    exact ⟨above, habove, (isWellFormed_of_ofName? h).parent?_fix hp habove⟩

theorem ofName_eq_ok_iff : ofName name = .ok n ↔ ofName? name = some n := by
  rw [ofName]
  cases ofName? name <;> simp

/-- A name gives what its text between slashes gives. -/
theorem ofName?_of_isBetweenSlashes {core : List Char}
    (h : IsBetweenSlashes core name.toList) :
    ofName? name =
      if core = [] then some whole
      else if isValid (String.ofList ('/' :: core)) then some ⟨some (String.ofList ('/' :: core))⟩
      else none := by
  obtain rfl := isBetweenSlashes_iff.mp h
  simp [ofName?, isValid]

/-- **Names, and what their namespaces do.** A name is accepted just if it is nothing but slashes,
which is the name of the whole tree, or gives a path when what stands between its slashes is put
after one slash, which is the path of the root then; any other name is refused as such. Without a
root, paths are left as they are. With a root or without one, fixing is an embedding and unfixing
its inverse. -/
theorem ofName_embeds (name : String) :
    (∀ n, ofName name = .ok n ↔
      ((∀ c ∈ name.toList, c = '/') ∧ n = whole) ∨
      ∃ core, core ≠ [] ∧ IsBetweenSlashes core name.toList ∧
        isValid (String.ofList ('/' :: core)) ∧ n = ⟨some (String.ofList ('/' :: core))⟩) ∧
    ((∀ n, ofName name ≠ .ok n) →
      ofName name = .error (.invalidConfig ("invalid namespace: " ++ Text.quoted name))) ∧
    ∀ n, ofName name = .ok n →
      (n.root = none → ∀ p, n.fix p = p ∧ n.unfix p = p) ∧ n.Embeds := by
  refine ⟨fun n => ?_, fun hnone => ?_, fun n hn => ⟨fun hroot p => ?_, ?_⟩⟩
  · have hcore : IsBetweenSlashes (trimRight (trimLeft name.toList)) name.toList :=
      isBetweenSlashes_iff.mpr rfl
    rw [ofName_eq_ok_iff, ofName?_of_isBetweenSlashes hcore, ← isBetweenSlashes_nil_iff]
    simp only [isBetweenSlashes_iff]
    constructor
    · intro h
      split at h
      · rename_i hnil
        exact .inl ⟨hnil, (Option.some.inj h).symm⟩
      · rename_i hne
        split at h
        · rename_i hvalid
          exact .inr ⟨_, hne, rfl, hvalid, (Option.some.inj h).symm⟩
        · cases h
    · rintro (⟨hnil, rfl⟩ | ⟨core, hne, rfl, hvalid, rfl⟩)
      · rw [if_pos hnil]
      · rw [if_neg hne, if_pos hvalid]
  · cases hname : ofName? name with
    | none => rw [ofName, hname]
    | some n => exact absurd (ofName_eq_ok_iff.mpr hname) (hnone n)
  · obtain rfl : n = whole := by
      cases n
      exact congrArg Namespace.mk hroot
    exact ⟨rfl, rfl⟩
  · exact embeds_of_ofName? (ofName_eq_ok_iff.mp hn)

/-- A name with slashes to spare; a path of the store whose name only begins like that of the
root. -/
theorem ofName_embeds_of_slashes :
    ofName "//app/v1/" = .ok ⟨some "/app/v1"⟩ ∧
    (⟨some "/app/v1"⟩ : Namespace).unfix ((⟨some "/app/v1"⟩ : Namespace).fix "/locks/a") =
      "/locks/a" ∧
    (⟨some "/app/v1"⟩ : Namespace).fix ((⟨some "/app/v1"⟩ : Namespace).unfix "/app/v1") =
      "/app/v1" ∧
    (⟨some "/app/v1"⟩ : Namespace).unfix "/app/v10/x" = "/app/v10/x" ∧
    (∀ n, ofName "a//b" ≠ .ok n) := by
  obtain ⟨-, -, hembeds⟩ := ofName_embeds "//app/v1/"
  obtain ⟨hnames, -, -⟩ := ofName_embeds "a//b"
  have hname : ofName "//app/v1/" = .ok ⟨some "/app/v1"⟩ := by decide +kernel
  obtain ⟨-, h⟩ := hembeds _ hname
  refine ⟨hname, h.unfix_fix _ (by decide +kernel), (h.fix_unfix _ (by decide +kernel) ?_).2,
    h.unfix_outside _ (by decide +kernel) fun hin => ?_, fun n hn => ?_⟩
  · intro root hroot
    exact .inl (Option.some.inj hroot)
  · rcases hin _ rfl with hroot | hbelow
    · exact absurd hroot (by decide)
    · exact absurd hbelow (by decide)
  · rcases (hnames n).mp hn with ⟨hslashes, -⟩ | ⟨core, -, hcore, hvalid, -⟩
    · exact absurd (hslashes 'a' (by decide)) (by decide)
    · rw [isBetweenSlashes_iff] at hcore
      subst hcore
      exact absurd hvalid (by decide +kernel)

end Namespace

end Coordination
