import CorpusBench.Jobs.Params
import CorpusBench.Jobs.Job
import CorpusBench.Json.Write
import CorpusBench.Text.Escaped

/-!
# The job form

The form a scholar fills in to run a task on one jobsite: one field per parameter of the task,
holding the parameter's default until a value is set.  Each field reads raw text by its
parameter type; blank text clears a field, except a flag, for which blank means no.  A form is
ready to submit when every required field has a value, and it runs only on content of the task's
type.

## Main definitions

* `FormField` — one field, with `readRaw` and `displayValue`.
* `JobForm` — the form, with `new`, `setValue`, `missing`, `validate` and
  `toSubmission`.

## Main results

* `JobForm.validate_ok_iff` — a form is valid exactly when no required field is
  missing.
-/

namespace CorpusBench

/-- One field of a job form. -/
structure FormField where
  name : String
  label : String
  paramType : ParameterType
  required : Bool
  choices : List String
  /-- The content type a cross reference must point to. -/
  contentType : Option String
  note : Option String
  value : Option Json

namespace FormField

/-- The field of a parameter, holding its default; an unknown type tag is refused. -/
def ofParameter (p : TaskParameter) : Except ClientError FormField := do
  let t ← ParameterType.ofTag p.typeTag
  return { name := p.name, label := p.label.getD p.name, paramType := t, required := p.required,
           choices := p.choices, contentType := p.contentType, note := p.note,
           value := p.default.bind fun v => if v == .null then none else some v }

/-- A list of texts as a message writes it: in brackets, each quoted and escaped. -/
def quotedList (xs : List String) : String :=
  "[" ++ ", ".intercalate (xs.map Text.quoteEscaped) ++ "]"

/-- The value as the form shows it: empty without a value, masked for a secret, the text of a
string, the URI of a cross reference, and the compact text of anything else. -/
def displayValue (f : FormField) : String :=
  match f.value with
  | none => ""
  | some v =>
    if f.paramType.isSecret then "••••••••"
    else match v with
      | .str s => s
      | .obj fs =>
        match fs.lookup "uri" with
        | some (.str u) => u
        | _ => ""
      | other => other.compact

/-- Read raw text into a value of the field's type; blank text is no value, except for a
flag. -/
def readRaw (f : FormField) (raw : String) : Except ClientError (Option Json) :=
  let trimmed := Text.trim raw
  if trimmed.isEmpty && f.paramType != .boolean then .ok none
  else some <$> match f.paramType with
    | .text | .password => .ok (.str raw)
    | .boolean => Json.bool <$> parseFlag raw
    | .choice =>
      if f.choices.contains trimmed then .ok (.str trimmed)
      else .error (.validation (f.name ++ " must be one of " ++ quotedList f.choices ++ ", got: " ++ trimmed))
    | .corpusFile => Json.str <$> corpusPath trimmed
    | .corpusRepo | .contentTypeRef =>
      if trimmed.any Text.isBlank then
        .error (.validation (f.name ++ " must be a single name, got: " ++ trimmed))
      else .ok (.str trimmed)
    | .crossReference => do
      let u ← ContentUri.parse trimmed
      match f.contentType with
      | some expected =>
        if u.contentType != expected then
          throw (.validation (f.name ++ " must reference a " ++ expected ++ ", got a " ++ u.contentType))
      | none => pure ()
      return crossReferenceValue u
    | .pep8Text => .ok (.str (reflowText raw))

end FormField

/-- The form for one task on one jobsite. -/
structure JobForm where
  task : Task
  jobsiteId : String
  fields : List FormField

namespace JobForm

/-- The form of a task; a parameter of unknown type is refused. -/
def new (task : Task) (jobsiteId : String) : Except ClientError JobForm := do
  return ⟨task, jobsiteId, ← task.parameters.mapM FormField.ofParameter⟩

/-- The first field of a name. -/
def field? (f : JobForm) (name : String) : Option FormField := f.fields.find? (·.name == name)

/-- Set the value of the first field with a given name from raw text. -/
def setValue (f : JobForm) (name : String) (raw : String) : Except ClientError JobForm := do
  match f.fields.findIdx? (·.name == name) with
  | none => throw (.invalidInput ("unknown parameter: " ++ name))
  | some i =>
    match f.fields[i]? with
    | none => throw (.invalidInput ("unknown parameter: " ++ name))
    | some fld =>
      let v ← fld.readRaw raw
      return { f with fields := f.fields.set i { fld with value := v } }

/-- The names of the required fields without a value. -/
def missing (f : JobForm) : List String :=
  (f.fields.filter fun fld => fld.required && fld.value.isNone).map (·.name)

/-- Refuse a form with a required field missing. -/
def validate (f : JobForm) : Except ClientError Unit :=
  match f.missing with
  | [] => .ok ()
  | names => .error (.validation ("missing required parameters: " ++ ", ".intercalate names))

theorem validate_ok_iff (f : JobForm) : f.validate = .ok () ↔ f.missing = [] := by
  unfold validate
  cases f.missing <;> simp

/-- The submission running the task on a record: the record must be of the task's type and the
form valid; every field with a value is sent, a later field of the same name winning. -/
def toSubmission (f : JobForm) (target : ContentUri) : Except ClientError JobSubmission := do
  if target.contentType != f.task.contentType then
    throw (.invalidInput ("task " ++ f.task.name ++ " runs on " ++ f.task.contentType ++
      " content, not " ++ target.contentType))
  f.validate
  let params : StrMap Json := f.fields.foldl (fun m fld =>
    match fld.value with
    | some v => m.insert fld.name v
    | none => m) []
  return { jobsiteId := f.jobsiteId, taskId := f.task.id, corpusId := target.corpusId,
           contentType := target.contentType, contentId := target.contentId,
           parameters := params }

end JobForm

end CorpusBench
