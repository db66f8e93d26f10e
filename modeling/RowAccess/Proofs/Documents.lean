import RowAccess.Record.Identity
import RowAccess.Record.Masks
import RowAccess.Record.Moments
import RowAccess.Record.Settings

/-!
# Reading back what was written

The document of a record names each of its fields, so reading it back is a
walk through the fields, each found by its name. `Finds` says that a reader
gets its result from named fields; it has one rule for each way of asking
for a field, and a record is read back by one rule after the other.

A field may be missing from a document. Settings have a value of their own
for that case, section by section and setting by setting, and what a
document with parts taken out reads as is `Settings.remaining`.

Data attached to a request is the exception among the fields: it may be any
document, null included, and null is also what is written where there is no
data. `Request.reread` says what this costs.
-/

namespace RowAccess

/-! ## Fields by their names -/

namespace RecordReader

variable {α β : Type} {r : RecordReader α} {f : α → RecordReader β} {read : Value → Option α}
  {es : List (String × Value)} {name : String} {v : Value} {a otherwise : α} {b : β}

/-- The reader gets `a` from the named fields. -/
def Finds (r : RecordReader α) (es : List (String × Value)) (a : α) : Prop :=
  r (.named es) = some (a, .named es)

theorem Finds.pure (a : α) : Finds (Pure.pure a) es a := rfl

theorem Finds.bind (hr : Finds r es a) (hf : Finds (f a) es b) : Finds (r >>= f) es b := by
  show (r (.named es)).bind (fun p => f p.1 p.2) = _
  rw [hr]
  exact hf

theorem Finds.read? (h : Finds r es a) : r.read? (.object es) = some a := by
  rw [RecordReader.read?, h]
  rfl

theorem Finds.required (hfind : Entries.find? es name = some v) (hread : read v = some a) :
    Finds (RecordReader.required name read) es a := by
  refine Finds.bind (a := some v) ?_ ?_
  · show some (Entries.find? es name, _) = _
    rw [hfind]
  · show (read v).bind (fun a => some (a, _)) = _
    rw [hread]
    rfl

/-- A field that may have been taken out of the document. -/
theorem Finds.orElse_pruned {stays : Bool}
    (hfind : Entries.find? es name = if stays then some v else none) (hread : read v = some a) :
    Finds (RecordReader.orElse name read otherwise) es (if stays then a else otherwise) := by
  refine Finds.bind (a := if stays then some v else none) ?_ ?_
  · show some (Entries.find? es name, _) = _
    rw [hfind]
  · cases stays with
    | true =>
        show (read v).bind (fun a => some (a, _)) = _
        rw [hread]
        rfl
    | false => rfl

theorem Finds.orElse (hfind : Entries.find? es name = some v) (hread : read v = some a) :
    Finds (RecordReader.orElse name read otherwise) es a := by
  have hstays : Entries.find? es name = if true then some v else none := hfind
  exact orElse_pruned hstays hread

theorem Finds.optional {o : Option α} (hfind : Entries.find? es name = some v)
    (hread : v.optional? read = some o) : Finds (RecordReader.optional name read) es o :=
  Finds.orElse hfind hread

end RecordReader

open RecordReader

/-! ## Callers -/

theorem Value.optional?_ofOption (o : Option String) :
    (Value.ofOption o).optional? text? = some o := by
  cases o <;> rfl

theorem Caller.ofValue?_toValue (c : Caller) : ofValue? c.toValue = some c := by
  refine Finds.read? ?_
  refine .bind (.required rfl rfl) ?_
  refine .bind (.optional rfl (Value.optional?_ofOption c.tenantId)) ?_
  refine .bind (.required rfl (Value.names?_ofNameSet c.roles)) ?_
  refine .bind (.required rfl rfl) ?_
  refine .bind (.optional rfl (Value.optional?_ofOptional Value.list?_ofNames nofun _)) ?_
  refine .bind (.orElse rfl (Value.names?_ofNameSet c.permissions)) ?_
  refine .bind (.orElse rfl (Value.map?_ofMap (fun _ => rfl) c.attributes)) ?_
  exact .pure c

/-! ## Requests -/

namespace Request

variable {r r' : Request}

/-- The data attached to a request, if it is more than null. -/
def substance (r : Request) : Option Value := r.attached.filter fun v => !v.isNull

theorem substance_eq_attached_iff : r.substance = r.attached ↔ r.attached ≠ some .null := by
  obtain ⟨caller, attached⟩ := r
  cases attached with
  | none => simp [substance]
  | some v => cases v <;> simp [substance, Value.isNull]

theorem optional?_attached (r : Request) :
    (Value.ofOptional id r.attached).optional? some = some r.substance := by
  obtain ⟨caller, attached⟩ := r
  cases attached with
  | none => rfl
  | some v => cases v <;> rfl

theorem ofOptional_substance (r : Request) :
    Value.ofOptional id r.substance = .ofOptional id r.attached := by
  obtain ⟨caller, attached⟩ := r
  cases attached with
  | none => rfl
  | some v => cases v <;> rfl

theorem ofValue?_toValue (r : Request) :
    ofValue? r.toValue = some { r with attached := r.substance } := by
  refine Finds.read? ?_
  refine .bind (.required rfl r.caller.ofValue?_toValue) ?_
  exact .bind (.optional rfl r.optional?_attached) (.pure _)

/-- A document tells the caller and the attached data, but not null from no data. -/
theorem toValue_eq_iff :
    r.toValue = r'.toValue ↔ r.caller = r'.caller ∧ r.substance = r'.substance := by
  constructor
  · intro h
    have hread : some { r with attached := r.substance } =
        some { r' with attached := r'.substance } := by
      rw [← ofValue?_toValue, ← ofValue?_toValue, h]
    simpa using hread
  · rintro ⟨hcaller, hsubstance⟩
    rw [toValue, toValue, ← ofOptional_substance, ← ofOptional_substance, hcaller, hsubstance]

/-- The document of a request gives back the caller as it was, and the attached data unless they
are null. So the request comes back exactly when no null is attached to it: a null is read as the
absence of data, which has the same document. -/
theorem reread (r : Request) :
    ofValue? r.toValue = some { r with attached := r.substance } ∧
    (ofValue? r.toValue = some r ↔ r.attached ≠ some .null) ∧
    ∀ r' : Request,
      r.toValue = r'.toValue ↔ r.caller = r'.caller ∧ r.substance = r'.substance := by
  refine ⟨r.ofValue?_toValue, ?_, fun r' => toValue_eq_iff⟩
  rw [ofValue?_toValue, ← substance_eq_attached_iff]
  constructor
  · intro h
    exact congrArg attached (Option.some.inj h)
  · intro h
    rw [h]

/-! ### A null that was attached -/

/-- A request that says that the relations of the caller were looked up, and that there are none. -/
def lookedUp : Request := ⟨Caller.user "u1", some .null⟩

/-- It is written like the request without data, and read as that. -/
theorem reread_lookedUp :
    lookedUp.toValue = (ofCaller lookedUp.caller).toValue ∧
    ofValue? lookedUp.toValue = some (ofCaller lookedUp.caller) ∧
    ofValue? lookedUp.toValue ≠ some lookedUp := by
  have hread := ofValue?_toValue lookedUp
  refine ⟨rfl, hread, fun h => ?_⟩
  have hattached := congrArg attached (Option.some.inj (hread.symm.trans h))
  cases hattached

end Request

/-! ## Masks -/

theorem MaskStrategy.ofValue?_toValue (m : MaskStrategy) : ofValue? m.toValue = some m := by
  cases m with
  | redact p => exact congrArg (Option.map redact) p.ofValue?_toValue
  | hash => rfl
  | tokenize => rfl
  | truncate n => rfl
  | constant t => rfl
  | null => rfl

theorem MaskOptions.ofValue?_toValue (o : MaskOptions) : ofValue? o.toValue = some o := by
  refine Finds.read? ?_
  refine .bind (.optional rfl (Value.optional?_ofOptional Value.names?_ofNameSet nofun _)) ?_
  exact .bind (.required rfl (Value.names?_ofNameSet o.excluded)) (.pure o)

theorem MaskedRow.ofValue?_toValue (m : MaskedRow) : ofValue? m.toValue = some m := by
  refine Finds.read? ?_
  refine .bind (.required rfl m.data.ofValue?_toValue) ?_
  refine .bind (.required rfl (Value.list?_ofNames m.masked)) ?_
  exact .bind (.required rfl (Value.list?_ofNames m.omitted)) (.pure m)

/-! ## Documents with parts taken out -/

namespace Value

/-- An object without the entries whose names do not stay. -/
def keeping (stays : String → Bool) : Value → Value
  | .object es => .object (es.filter fun e => stays e.1)
  | v => v

/-- An object of sections without the sections that do not stay, and the others without the
entries that do not stay in them. -/
def pruned (stays : String → Bool) (staysIn : String → String → Bool) : Value → Value
  | .object es =>
    .object ((es.filter fun e => stays e.1).map fun e => (e.1, e.2.keeping (staysIn e.1)))
  | v => v

theorem keeping_all (v : Value) : v.keeping (fun _ => true) = v := by
  cases v with
  | object es => exact congrArg object (List.filter_eq_self.mpr fun _ _ => rfl)
  | _ => rfl

theorem pruned_all (v : Value) : v.pruned (fun _ => true) (fun _ _ => true) = v := by
  cases v with
  | object es =>
      rw [pruned, List.filter_eq_self.mpr fun _ _ => rfl]
      simp [keeping_all]
  | _ => rfl

end Value

namespace Entries

variable {α : Type} {es : List (String × α)} {name : String} {v : α}

theorem find?_keeping (stays : String → Bool) (h : find? es name = some v) :
    find? (es.filter fun e => stays e.1) name = if stays name then some v else none := by
  rw [find?_filter, h]

theorem find?_pruned {es : List (String × Value)} {v : Value} (stays : String → Bool)
    (staysIn : String → String → Bool) (h : find? es name = some v) :
    find? ((es.filter fun e => stays e.1).map fun e => (e.1, e.2.keeping (staysIn e.1))) name =
      if stays name then some (v.keeping (staysIn name)) else none := by
  refine (find?_map (fun name (v : Value) => v.keeping (staysIn name)) _ name).trans ?_
  rw [find?_keeping stays h]
  split <;> rfl

end Entries

namespace KeyMap

variable {α : Type}

/-- The map of the names that stay. -/
def restrict (m : KeyMap α) (stays : String → Bool) : KeyMap α :=
  ⟨m.entries.filter fun e => stays e.1, m.sorted.filter _⟩

@[simp] theorem find?_restrict (m : KeyMap α) (stays : String → Bool) (name : String) :
    (m.restrict stays).find? name = if stays name then m.find? name else none :=
  Entries.find?_filter stays m.entries name

@[simp] theorem restrict_all (m : KeyMap α) : m.restrict (fun _ => true) = m :=
  ext (List.filter_eq_self.mpr fun _ _ => rfl)

@[simp] theorem restrict_none (m : KeyMap α) : m.restrict (fun _ => false) = empty :=
  ext (List.filter_eq_nil_iff.mpr fun _ _ h => Bool.noConfusion h)

theorem keeping_ofMap (write : α → Value) (m : KeyMap α) (stays : String → Bool) :
    (Value.ofMap write m).keeping stays = .ofMap write (m.restrict stays) :=
  congrArg Value.object List.filter_map

end KeyMap

/-! ## Settings -/

/-- The engine settings with the built-in value for each one that does not stay. -/
def EngineSettings.remaining (s : EngineSettings) (stays : String → Bool) : EngineSettings :=
  let builtIn := Settings.default.engine
  { environment := if stays "environment" then s.environment else builtIn.environment
    denyUnregistered :=
      if stays "deny_unregistered_tables" then s.denyUnregistered else builtIn.denyUnregistered
    requireContext := if stays "require_context" then s.requireContext else builtIn.requireContext }

/-- The audit settings with the built-in value for each one that does not stay. -/
def AuditSettings.remaining (s : AuditSettings) (stays : String → Bool) : AuditSettings :=
  let builtIn := Settings.default.audit
  { enabled := if stays "enabled" then s.enabled else builtIn.enabled
    logAllows := if stays "log_allows" then s.logAllows else builtIn.logAllows }

/-- The resolver settings with the built-in value for each one that does not stay. -/
def ResolverSettings.remaining (s : ResolverSettings) (stays : String → Bool) : ResolverSettings :=
  let builtIn := Settings.default.resolver
  { cacheTtlSecs := if stays "cache_ttl_secs" then s.cacheTtlSecs else builtIn.cacheTtlSecs }

namespace Settings

/-- The settings of which only some stay, by section and name. The others have their built-in
values, and a feature that does not stay is no longer there. -/
def remaining (s : Settings) (stays : String → String → Bool) : Settings :=
  { engine := s.engine.remaining (stays "engine")
    features := s.features.restrict (stays "features")
    audit := s.audit.remaining (stays "audit")
    resolver := s.resolver.remaining (stays "resolver") }

theorem remaining_all (s : Settings) : s.remaining (fun _ _ => true) = s := by
  rw [remaining, KeyMap.restrict_all]
  rfl

/-- Each section is read by itself: as built in when it was taken out, and else setting by
setting. -/
theorem ofValue?_pruned_sections (s : Settings) (stays : String → Bool)
    (staysIn : String → String → Bool) :
    ofValue? (s.toValue.pruned stays staysIn) =
      some
        { engine :=
            if stays "engine" then s.engine.remaining (staysIn "engine") else default.engine
          features :=
            if stays "features" then s.features.restrict (staysIn "features") else default.features
          audit := if stays "audit" then s.audit.remaining (staysIn "audit") else default.audit
          resolver :=
            if stays "resolver" then s.resolver.remaining (staysIn "resolver")
            else default.resolver } := by
  have hfeatures : ((Value.ofMap .bool s.features).keeping (staysIn "features")).map? Value.bool? =
      some (s.features.restrict (staysIn "features")) := by
    have hbool : ∀ b, (Value.bool b).bool? = some b := fun _ => rfl
    rw [KeyMap.keeping_ofMap, Value.map?_ofMap hbool]
  refine Finds.read? ?_
  refine .bind (Finds.orElse_pruned (a := s.engine.remaining (staysIn "engine"))
    (Entries.find?_pruned stays staysIn rfl) (Finds.read? ?_)) ?_
  · refine .bind (.orElse_pruned (Entries.find?_keeping (staysIn "engine") rfl) rfl) ?_
    refine .bind (.orElse_pruned (Entries.find?_keeping (staysIn "engine") rfl) rfl) ?_
    exact .bind (.orElse_pruned (Entries.find?_keeping (staysIn "engine") rfl) rfl) (.pure _)
  refine .bind (.orElse_pruned (Entries.find?_pruned stays staysIn rfl) hfeatures) ?_
  refine .bind (Finds.orElse_pruned (a := s.audit.remaining (staysIn "audit"))
    (Entries.find?_pruned stays staysIn rfl) (Finds.read? ?_)) ?_
  · refine .bind (.orElse_pruned (Entries.find?_keeping (staysIn "audit") rfl) rfl) ?_
    exact .bind (.orElse_pruned (Entries.find?_keeping (staysIn "audit") rfl) rfl) (.pure _)
  refine .bind (Finds.orElse_pruned (a := s.resolver.remaining (staysIn "resolver"))
    (Entries.find?_pruned stays staysIn rfl) (Finds.read? ?_)) (.pure _)
  exact .bind (.orElse_pruned (Entries.find?_keeping (staysIn "resolver") rfl) rfl) (.pure _)

/-- What was taken out of the document of settings has its built-in value, and the rest is as
written. -/
theorem ofValue?_pruned (s : Settings) (stays : String → Bool) (staysIn : String → String → Bool) :
    ofValue? (s.toValue.pruned stays staysIn) =
      some (s.remaining fun sect name => stays sect && staysIn sect name) := by
  rw [ofValue?_pruned_sections, remaining]
  congr 2
  · cases stays "engine" <;> rfl
  · cases stays "features" with
    | true => rfl
    | false => exact (KeyMap.restrict_none s.features).symm
  · cases stays "audit" <;> rfl
  · cases stays "resolver" <;> rfl

theorem ofValue?_toValue (s : Settings) : ofValue? s.toValue = some s := by
  have h := s.ofValue?_pruned (fun _ => true) (fun _ _ => true)
  rwa [Value.pruned_all, Bool.and_true, remaining_all] at h

end Settings

end RowAccess
