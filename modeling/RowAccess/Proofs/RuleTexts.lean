import RowAccess.Proofs.Documents
import RowAccess.Proofs.DocumentTexts

/-!
# Rule data through texts

Callers, features, masks and settings are kept and sent as texts. Their
documents give them back as they were, and with parts taken out of the
document of settings the built-in values stand in (`Proofs/Documents`). A
text gives back the document that was printed as far as it survives
(`Value.read?_print_iff`).

What survives is decided by the free parts. The fields that a record has
by itself are texts, truth values, names and natural numbers, and none of
these is lost. Attributes, features and the cells of a row may be any
documents: a float among them may come back as its neighbour, and what is
nested too deep does not come back at all.
-/

namespace RowAccess

open Value (Survives maxDepth)

/-! ## Parts of records -/

namespace Value

variable {depth : Nat} {name : String} {v : Value} {es : List (String × Value)}

theorem names_map_snd {α β : Type} (f : String × α → β) (es : List (String × α)) :
    Entries.names (es.map fun e => (e.1, f e)) = Entries.names es := List.map_map

theorem survives_object_iff :
    (object es).Survives (depth + 1) ↔
      (Entries.names es).Nodup ∧ ∀ e ∈ es, e.2.Survives depth :=
  ⟨fun | .object hnames h => ⟨hnames, h⟩, fun h => .object h.1 h.2⟩

theorem survives_ofOption (o : Option String) (depth : Nat) : (ofOption o).Survives depth := by
  cases o with
  | none => exact .null depth
  | some s => exact .string s depth

theorem survives_ofNames (names : List String) (depth : Nat) :
    (ofNames names).Survives (depth + 1) := by
  refine .array fun x hx => ?_
  obtain ⟨name, -, rfl⟩ := List.mem_map.mp hx
  exact .string name depth

theorem survives_ofNameSet (names : NameSet) (depth : Nat) :
    (ofNameSet names).Survives (depth + 1) := survives_ofNames _ depth

theorem survives_ofOptional {α : Type} {write : α → Value}
    (h : ∀ a, (write a).Survives depth) (o : Option α) : (ofOptional write o).Survives depth := by
  cases o with
  | none => exact .null depth
  | some a => exact h a

theorem survives_ofNat {n : Nat} (h : n ≤ Number.maxNatural) (depth : Nat) :
    (ofNat n).Survives depth := by
  refine .number (Number.reread?_integer ⟨?_, Int.ofNat_le.mpr h⟩) depth
  exact Int.le_trans (Int.neg_nonpos_of_nonneg (Int.natCast_nonneg _)) (Int.natCast_nonneg n)

theorem survives_ofMap_iff {m : KeyMap Value} :
    (ofMap id m).Survives (depth + 1) ↔ ∀ e ∈ m.entries, e.2.Survives depth := by
  have hentries : m.entries.map (fun e => (e.1, id e.2)) = m.entries := List.map_id _
  rw [ofMap, hentries, survives_object_iff]
  exact and_iff_right m.nodup_names

/-- The entries of a map may change their values, but not their names. -/
theorem exists_ofMap_of_reread? {m : KeyMap Value} {w : Value}
    (h : (ofMap id m).reread? depth = some w) : ∃ n : KeyMap Value, w = ofMap id n := by
  have hentries : ∀ m : KeyMap Value, ofMap id m = object m.entries := fun m =>
    congrArg object (List.map_id _)
  cases depth with
  | zero => cases h
  | succ depth =>
      rw [hentries, reread?] at h
      obtain ⟨fs, hfs, rfl⟩ := Option.map_eq_some_iff.mp h
      have hnames := names_rereadFields? hfs
      have hsorted : fs.Pairwise fun a b => a.1 < b.1 := by
        have hm : (Entries.names m.entries).Pairwise (· < ·) := List.pairwise_map.mpr m.sorted
        rw [← hnames] at hm
        exact List.pairwise_map.mp hm
      have hnodup : (Entries.names fs).Nodup := hnames ▸ m.nodup_names
      refine ⟨⟨fs, hsorted⟩, ?_⟩
      rw [hentries, Entries.ofList_of_nodup hnodup]

/-- So do the cells of a row. -/
theorem exists_row_of_reread? {r : Row} {w : Value} (h : r.toValue.reread? depth = some w) :
    ∃ t : Row, w = t.toValue := by
  cases depth with
  | zero => cases h
  | succ depth =>
      rw [Row.toValue, reread?] at h
      obtain ⟨fs, -, rfl⟩ := Option.map_eq_some_iff.mp h
      exact ⟨⟨Entries.ofList fs, Entries.nodup_ofList fs⟩, rfl⟩

theorem rereadFields?_append {front : List (String × Value)} (h : ∀ e ∈ front, e.2.Survives depth)
    (es : List (String × Value)) :
    rereadFields? (front ++ es) depth = (rereadFields? es depth).map (front ++ ·) := by
  induction front with
  | nil => exact (congrFun Option.map_id _).symm
  | cons e front ih =>
      obtain ⟨he, hfront⟩ := List.forall_mem_cons.mp h
      rw [List.cons_append, rereadFields?, (reread?_eq_self_iff _ _).mpr he, Option.bind_some,
        ih hfront, Option.map_map]
      rfl

/-- One field is free in a record, and the others survive. -/
structure FreeIn (front : List (String × Value)) (name : String) (back : List (String × Value))
    (depth : Nat) : Prop where
  names : (Entries.names front ++ name :: Entries.names back).Nodup
  front : ∀ e ∈ front, e.2.Survives depth
  back : ∀ e ∈ back, e.2.Survives depth

/-- Only the free field changes. -/
theorem FreeIn.reread? {front back : List (String × Value)} (h : FreeIn front name back depth)
    (v : Value) :
    (object (front ++ (name, v) :: back)).reread? (depth + 1) =
      (v.reread? depth).map fun w => object (front ++ (name, w) :: back) := by
  have hobject : ∀ w, Entries.ofList (front ++ (name, w) :: back) = front ++ (name, w) :: back :=
    fun w => Entries.ofList_of_nodup (by simpa [Entries.names] using h.names)
  rw [Value.reread?, rereadFields?_append h.front, rereadFields?,
    (rereadFields?_eq_self_iff back depth).mpr h.back]
  cases v.reread? depth with
  | none => rfl
  | some w => exact congrArg (fun es => some (object es)) (hobject w)

/-! ## Through a text -/

section

variable {α : Type} {read : Value → Option α} {write : α → Value} {a : α}

/-- What is read from the text of a document. -/
def throughText (v : Value) (read : Value → Option α) : Option α := (Value.read? v.print).bind read

theorem throughText_of_survives (hread : read v = some a) (h : v.Survives maxDepth) :
    v.throughText read = some a := by
  rw [throughText, (read?_print_iff v).mpr h, Option.bind_some, hread]

/-- If whatever is read was written in the same way, only what survives comes back. -/
theorem throughText_iff (hread : ∀ a, read (write a) = some a)
    (hshape : ∀ w, (write a).reread? maxDepth = some w → ∃ b, w = write b) :
    (write a).throughText read = some a ↔ (write a).Survives maxDepth := by
  refine ⟨fun h => ?_, throughText_of_survives (hread a)⟩
  rw [throughText, read?_print] at h
  obtain ⟨w, hw, hback⟩ := Option.bind_eq_some_iff.mp h
  obtain ⟨b, rfl⟩ := hshape w hw
  obtain rfl := Option.some.inj ((hread b).symm.trans hback)
  exact (reread?_eq_self_iff _ _).mp hw

/-- A record comes back if its free field survives. -/
theorem FreeIn.throughText_iff {front back : List (String × Value)} (h : FreeIn front name back 126)
    (hread : ∀ a, read (write a) = some a)
    (hwrite : write a = object (front ++ (name, v) :: back))
    (hshape : ∀ w, v.reread? 126 = some w →
      ∃ b, write b = object (front ++ (name, w) :: back)) :
    (write a).throughText read = some a ↔ v.Survives 126 := by
  have hchange : (write a).reread? maxDepth =
      (v.reread? 126).map fun w => object (front ++ (name, w) :: back) := hwrite ▸ h.reread? v
  rw [Value.throughText_iff hread, ← reread?_eq_self_iff, ← reread?_eq_self_iff, hchange, hwrite,
    Option.map_eq_some_iff]
  · simp
  · intro w hw
    obtain ⟨w, hfree, rfl⟩ := Option.map_eq_some_iff.mp (hchange.symm.trans hw)
    obtain ⟨b, hb⟩ := hshape w hfree
    exact ⟨b, hb.symm⟩

end

end Value

/-! ## Records with free parts -/

theorem Caller.throughText_iff (c : Caller) :
    c.toValue.throughText Caller.ofValue? = some c ↔
      ∀ e ∈ c.attributes.entries, e.2.Survives 125 := by
  have hfree : Value.FreeIn
      [("user_id", .string c.userId), ("tenant_id", .ofOption c.tenantId),
        ("roles", .ofNameSet c.roles), ("is_system", .bool c.isSystem),
        ("organization_ids", .ofOptional .ofNames c.organizations),
        ("permissions", .ofNameSet c.permissions)] "attributes" [] 126 := by
    refine ⟨by simp, ?_, nofun⟩
    simp only [List.forall_mem_cons]
    exact ⟨.string _ _, Value.survives_ofOption _ _, Value.survives_ofNameSet _ _, .bool _ _,
      Value.survives_ofOptional (fun names => Value.survives_ofNames names _) _,
      Value.survives_ofNameSet _ _, nofun⟩
  rw [hfree.throughText_iff Caller.ofValue?_toValue rfl, Value.survives_ofMap_iff]
  intro w hw
  obtain ⟨attributes, rfl⟩ := Value.exists_ofMap_of_reread? hw
  exact ⟨{ c with attributes }, rfl⟩

theorem Features.throughText_iff (f : Features) :
    f.toValue.throughText Features.ofValue? = some f ↔ ∀ e ∈ f.entries, e.2.Survives 126 := by
  have hread : ∀ f : Features, ofValue? f.toValue = some f := Value.map?_ofMap fun _ => rfl
  rw [Value.throughText_iff hread fun w => Value.exists_ofMap_of_reread?]
  exact Value.survives_ofMap_iff

theorem MaskedRow.throughText_iff (m : MaskedRow) :
    m.toValue.throughText MaskedRow.ofValue? = some m ↔
      ∀ e ∈ m.data.entries, e.2.Survives 125 := by
  have hfree : Value.FreeIn [] "data"
      [("masked_fields", .ofNames m.masked), ("omitted_fields", .ofNames m.omitted)] 126 := by
    refine ⟨by simp, nofun, ?_⟩
    simp only [List.forall_mem_cons]
    exact ⟨Value.survives_ofNames _ _, Value.survives_ofNames _ _, nofun⟩
  have hdata : m.data.toValue.Survives (125 + 1) ↔ ∀ e ∈ m.data.entries, e.2.Survives 125 :=
    Value.survives_object_iff.trans (and_iff_right m.data.distinct)
  rw [hfree.throughText_iff MaskedRow.ofValue?_toValue rfl, hdata]
  intro w hw
  obtain ⟨data, rfl⟩ := Value.exists_row_of_reread? hw
  exact ⟨{ m with data }, rfl⟩

/-! ## Records of fixed kinds -/

theorem MaskStrategy.throughText_toValue {m : MaskStrategy}
    (h : ∀ n, m = .truncate n → n ≤ Number.maxNatural) :
    m.toValue.throughText MaskStrategy.ofValue? = some m := by
  refine Value.throughText_of_survives m.ofValue?_toValue ?_
  show m.toValue.Survives (125 + 1 + 1)
  cases m with
  | truncate n =>
      refine .object (by simp) (List.forall_mem_singleton.mpr ?_)
      refine .object (by simp) (List.forall_mem_singleton.mpr ?_)
      exact Value.survives_ofNat (h n rfl) 125
  | redact p => exact .object (by simp) (List.forall_mem_singleton.mpr (.string p.name _))
  | constant t => exact .object (by simp) (List.forall_mem_singleton.mpr (.string t _))
  | hash => exact .string _ _
  | tokenize => exact .string _ _
  | null => exact .string _ _

theorem MaskOptions.throughText_toValue (o : MaskOptions) :
    o.toValue.throughText MaskOptions.ofValue? = some o := by
  refine Value.throughText_of_survives o.ofValue?_toValue ?_
  show o.toValue.Survives (125 + 1 + 1)
  refine .object (by simp) ?_
  simp only [List.forall_mem_cons]
  exact ⟨Value.survives_ofOptional (fun names => Value.survives_ofNameSet names 125) _,
    Value.survives_ofNameSet _ 125, nofun⟩

/-! ## Settings with parts taken out -/

theorem Value.Survives.keeping {v : Value} {depth : Nat} (h : v.Survives depth)
    (stays : String → Bool) : (v.keeping stays).Survives depth := by
  cases h with
  | object hnames h =>
      refine .object (hnames.sublist (List.filter_sublist.map _)) fun e he => ?_
      exact h e (List.mem_of_mem_filter he)
  | null => exact .null _
  | bool => exact .bool _ _
  | number h => exact .number h _
  | string => exact .string _ _
  | array h => exact .array h

theorem Value.Survives.pruned {v : Value} {depth : Nat} (h : v.Survives depth)
    (stays : String → Bool) (staysIn : String → String → Bool) :
    (v.pruned stays staysIn).Survives depth := by
  cases h with
  | object hnames h =>
      refine .object ?_ fun e he => ?_
      · have hkept := hnames.filter stays
        rw [← Entries.names_filter] at hkept
        rw [names_map_snd]
        exact hkept
      · obtain ⟨f, hf, rfl⟩ := List.mem_map.mp he
        exact (h f (List.mem_of_mem_filter hf)).keeping _
  | null => exact .null _
  | bool => exact .bool _ _
  | number h => exact .number h _
  | string => exact .string _ _
  | array h => exact .array h

theorem Settings.survives_toValue {s : Settings} (h : s.resolver.cacheTtlSecs ≤ Number.maxNatural) :
    s.toValue.Survives maxDepth := by
  have hfeatures : (Value.ofMap .bool s.features).Survives (125 + 1) := by
    refine .object ?_ fun e he => ?_
    · rw [Value.names_map_snd]
      exact s.features.nodup_names
    · obtain ⟨f, -, rfl⟩ := List.mem_map.mp he
      exact .bool _ _
  show s.toValue.Survives (125 + 1 + 1)
  refine .object (by simp) ?_
  simp only [List.forall_mem_cons]
  refine ⟨.object (by simp) ?_, hfeatures, .object (by simp) ?_, .object (by simp) ?_, nofun⟩
  · simp only [List.forall_mem_cons]
    exact ⟨.string _ _, .bool _ _, .bool _ _, nofun⟩
  · simp only [List.forall_mem_cons]
    exact ⟨.bool _ _, .bool _ _, nofun⟩
  · exact List.forall_mem_singleton.mpr (Value.survives_ofNat h 125)

theorem Settings.throughText_pruned {s : Settings}
    (h : s.resolver.cacheTtlSecs ≤ Number.maxNatural) (stays : String → Bool)
    (staysIn : String → String → Bool) :
    (s.toValue.pruned stays staysIn).throughText Settings.ofValue? =
      some (s.remaining fun sect name => stays sect && staysIn sect name) :=
  Value.throughText_of_survives (s.ofValue?_pruned stays staysIn)
    ((s.survives_toValue h).pruned stays staysIn)

/-- Callers, features, masking strategies, mask options, masked rows and settings come back from
their documents as they were. From a document of settings any sections, and any entries of the
sections left, may be taken out: every engine, audit and resolver setting that is no longer there
has its built-in value, every feature that is no longer there is unknown, and everything else is as
it was.

The texts of these documents give the same back. Only what is free in them has to survive, so that
callers, features and masked rows come back exactly when each attribute, feature or cell does;
lengths and times are of sixty-four bits. -/
theorem rules_reread :
    ((∀ c : Caller, Caller.ofValue? c.toValue = some c) ∧
      (∀ f : Features, Features.ofValue? f.toValue = some f) ∧
      (∀ m : MaskStrategy, MaskStrategy.ofValue? m.toValue = some m) ∧
      (∀ o : MaskOptions, MaskOptions.ofValue? o.toValue = some o) ∧
      (∀ m : MaskedRow, MaskedRow.ofValue? m.toValue = some m) ∧
      (∀ s : Settings, Settings.ofValue? s.toValue = some s) ∧
      ∀ (s : Settings) (stays : String → Bool) (staysIn : String → String → Bool),
        ∃ left : Settings,
          Settings.ofValue? (s.toValue.pruned stays staysIn) = some left ∧
          left = s.remaining (fun sect name => stays sect && staysIn sect name) ∧
          ∀ name, left.features.find? name =
            if stays "features" && staysIn "features" name then s.features.find? name
            else none) ∧
    (∀ c : Caller, c.toValue.throughText Caller.ofValue? = some c ↔
      ∀ e ∈ c.attributes.entries, e.2.Survives 125) ∧
    (∀ f : Features, f.toValue.throughText Features.ofValue? = some f ↔
      ∀ e ∈ f.entries, e.2.Survives 126) ∧
    (∀ m : MaskStrategy, (∀ n, m = .truncate n → n ≤ Number.maxNatural) →
      m.toValue.throughText MaskStrategy.ofValue? = some m) ∧
    (∀ o : MaskOptions, o.toValue.throughText MaskOptions.ofValue? = some o) ∧
    (∀ m : MaskedRow, m.toValue.throughText MaskedRow.ofValue? = some m ↔
      ∀ e ∈ m.data.entries, e.2.Survives 125) ∧
    (∀ s : Settings, s.resolver.cacheTtlSecs ≤ Number.maxNatural →
      s.toValue.throughText Settings.ofValue? = some s) ∧
    ∀ (s : Settings) (stays : String → Bool) (staysIn : String → String → Bool),
      s.resolver.cacheTtlSecs ≤ Number.maxNatural →
        (s.toValue.pruned stays staysIn).throughText Settings.ofValue? =
          some (s.remaining fun sect name => stays sect && staysIn sect name) := by
  refine ⟨⟨Caller.ofValue?_toValue, Value.map?_ofMap fun _ => rfl, MaskStrategy.ofValue?_toValue,
    MaskOptions.ofValue?_toValue, MaskedRow.ofValue?_toValue, Settings.ofValue?_toValue, ?_⟩,
    Caller.throughText_iff, Features.throughText_iff, fun m => m.throughText_toValue,
    MaskOptions.throughText_toValue, MaskedRow.throughText_iff, fun s h => ?_,
    fun s stays staysIn h => s.throughText_pruned h stays staysIn⟩
  · intro s stays staysIn
    exact ⟨_, s.ofValue?_pruned stays staysIn, rfl, s.features.find?_restrict _⟩
  · exact Value.throughText_of_survives s.ofValue?_toValue (s.survives_toValue h)

/-! ### Attributes that come back, and others -/

/-- A document of so many levels. -/
def Value.nested : Nat → Value
  | 0 => .null
  | depth + 1 => .array [nested depth]

theorem Value.survives_nested_iff (levels depth : Nat) :
    (nested levels).Survives depth ↔ levels ≤ depth := by
  induction levels generalizing depth with
  | zero => exact ⟨fun _ => depth.zero_le, fun _ => .null depth⟩
  | succ levels ih =>
      cases depth with
      | zero => exact ⟨nofun, nofun⟩
      | succ depth =>
          rw [nested, Nat.succ_le_succ_iff, ← ih depth]
          exact ⟨fun | .array h => h _ List.mem_cons_self,
            fun h => .array (List.forall_mem_singleton.mpr h)⟩

/-- A caller with one attribute. -/
def Caller.holding (v : Value) : Caller := (Caller.user "u1").withAttribute "score" v

theorem Caller.throughText_holding_iff (v : Value) :
    (holding v).toValue.throughText ofValue? = some (holding v) ↔ v.Survives 125 :=
  (throughText_iff _).trans List.forall_mem_singleton

/-- A quarter. -/
def quarter : Number := .float ⟨4598175219545276416⟩

/-- A float that is read from its text as the next one above it. -/
def unsteady : Number := .float ⟨4607340108600814804⟩

def Settings.withTtl (s : Settings) (secs : Nat) : Settings := { s with resolver := ⟨secs⟩ }

/-- A quarter and a document of 125 levels survive as attributes, and so do the largest numbers in
masks and settings. -/
theorem rules_reread_quarter :
    (quarter.text = "0.25" ∧
      (Caller.holding (.number quarter)).toValue.throughText Caller.ofValue? =
        some (.holding (.number quarter))) ∧
    (Caller.holding (.nested 125)).toValue.throughText Caller.ofValue? =
      some (.holding (.nested 125)) ∧
    (MaskStrategy.truncate Number.maxNatural).toValue.throughText MaskStrategy.ofValue? =
      some (.truncate Number.maxNatural) ∧
    (Settings.production.withTtl Number.maxNatural).toValue.throughText Settings.ofValue? =
      some (Settings.production.withTtl Number.maxNatural) := by
  obtain ⟨-, hcaller, -, hstrategy, -, -, hsettings, -⟩ := rules_reread
  refine ⟨⟨by decide +kernel, (hcaller _).mpr (List.forall_mem_singleton.mpr ?_)⟩,
    (hcaller _).mpr (List.forall_mem_singleton.mpr ?_), hstrategy _ ?_, hsettings _ (Nat.le_refl _)⟩
  · exact .number (by decide +kernel) _
  · exact (Value.survives_nested_iff 125 125).mpr (Nat.le_refl _)
  · rintro n ⟨⟩
    exact Nat.le_refl _

/-- A float that comes back as the next one, and a document of 126 levels that does not. -/
theorem rules_reread_unsteady :
    (unsteady.text = "1.0350141695187647" ∧
      unsteady.reread? = some (.float ⟨4607340108600814805⟩) ∧
      (Caller.holding (.number unsteady)).toValue.throughText Caller.ofValue? ≠
        some (.holding (.number unsteady))) ∧
    (Caller.holding (.nested 126)).toValue.throughText Caller.ofValue? ≠
      some (.holding (.nested 126)) := by
  have hnext : unsteady.reread? = some (.float ⟨4607340108600814805⟩) := by decide +kernel
  refine ⟨⟨by decide +kernel, hnext, fun h => ?_⟩, fun h => ?_⟩
  · cases (Caller.throughText_holding_iff _).mp h with
    | number hback =>
        rw [hnext] at hback
        exact absurd hback (by decide)
  · have hlevels := (Value.survives_nested_iff 126 125).mp
      ((Caller.throughText_holding_iff _).mp h)
    omega

end RowAccess
