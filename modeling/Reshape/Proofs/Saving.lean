import Reshape.Proofs.Change
import Reshape.Proofs.JsonText
import Reshape.Proofs.Mirror
import Reshape.Proofs.SheetForm

/-!
# Loading what was saved

A collection is saved to a workbook and as JSON beside it. The JSON text gives it back as it is; the
sheet gives back its sheet form.

* `Collection.Faithful`: what is assumed of the texts of the two files; `Collection.faithful`, where
  it holds.
* `Records.read_written`: both files after records were written.
* `Transfer.load_saved`: the operators `load` and `save`.
-/

namespace Reshape

/-! ## Texts that are kept -/

/-- No character of the text needs a code, and none starts what looks like one. -/
def StoredText.Plain (cs : List Char) : Prop :=
  (∀ c ∈ cs, needsCode c = false) ∧ ∀ s, s <:+ cs → startsLikeCode s = false

theorem StoredText.ofText_of_plain {cs : List Char} (h : Plain cs) : ofText cs = cs := by
  induction cs with
  | nil => rfl
  | cons c cs ih =>
    have hrest : Plain cs := ⟨fun d hd => h.1 d (List.mem_cons_of_mem c hd),
      fun s hs => h.2 s (hs.trans (List.suffix_cons c cs))⟩
    rw [ofText, h.2 _ List.suffix_rfl, h.1 c List.mem_cons_self, ih hrest]
    rfl

theorem mapM_eq_self {α : Type} {f : α → Option α} {l : List α} (h : ∀ a ∈ l, f a = some a) :
    l.mapM f = some l :=
  (mapM_eq_pure_map h).trans (congrArg some (List.map_id' l))

/-- A sheet of plain texts is read as it was written. -/
theorem Sheet.stored?_of_plain {s : Sheet}
    (h : ∀ t ∈ s.texts, TextTable.isRuns t = false ∧ StoredText.Plain t.toList) :
    s.stored? = some s := by
  have hback : TextTable.readBack? s.texts =
      some fun t => some (String.ofList (StoredText.ofText t.toList)) := by
    rw [TextTable.readBack?, if_neg]
    simpa using fun t ht => (h t ht).1
  rw [stored?, hback]
  refine mapM_eq_self fun row hrow => mapM_eq_self fun v hv => ?_
  cases v with
  | string t =>
    have ht : t ∈ s.texts := List.mem_flatMap.2 ⟨row, hrow, List.mem_filterMap.2 ⟨_, hv, rfl⟩⟩
    rw [storedCell, Option.map_some, StoredText.ofText_of_plain (h t ht).2, String.ofList_toList]
  | _ => rfl

/-! ## Files of collections -/

/-- The files of a collection are read as they were written: the JSON text is parsed back to the
records, and the cells of the sheet hold what was put into them. -/
structure Collection.Faithful (c : Collection) : Prop where
  text : Value.ofText? (Value.array c).prettyText = some (.array c)
  cells : (Sheet.ofRecords c).stored? = some (Sheet.ofRecords c)

/-- The files of readable records with plain texts are read as they were written. -/
theorem Collection.faithful {c : Collection} (h : (Value.array c).Readable Draft.maxDepth)
    (ht : ∀ t ∈ (Sheet.ofRecords c).texts, TextTable.isRuns t = false ∧
      StoredText.Plain t.toList) : c.Faithful :=
  ⟨Value.ofText?_prettyText h, Sheet.stored?_of_plain ht⟩

namespace Records

theorem writeSheet_eq_ok {f g : Files} {path sheet : String} {c : Collection}
    (h : writeSheet f path sheet c = .ok g) :
    ∃ bytes, f.write path (.workbook ⟨bytes, Workbook.ofSheet? sheet (Sheet.ofRecords c)⟩) =
      .ok g := by
  unfold writeSheet at h
  dsimp only at h
  split at h
  · cases h
  split at h
  · cases h
  rename_i s hs
  unfold Workbook.sheetOfRecords? at hs
  dsimp only at hs
  split at hs <;> cases hs
  split at h
  · rename_i hw
    cases h
    exact ⟨_, hw⟩
  · cases h

theorem writeJson_eq_ok {f g : Files} {path : String} {c : Collection}
    (h : writeJson f path c = .ok g) :
    f.write path (.text (Value.array c).prettyText) = .ok g := by
  unfold writeJson at h
  split at h
  · rename_i hw
    cases h
    exact hw
  · cases h

/-- **Both files of written records.** The mirror gives them back, and the sheet their sheet
form. -/
theorem read_written {f g : Files} {path sheet : String} {c : Collection}
    (hx : Path.hasExtension path "xlsx" = true)
    (hnames : ∀ r, .object r ∈ c → ∀ k ∈ Record.keys r, k ≠ "") (hc : c.Faithful)
    (hw : write f path sheet c = (g, .ok ())) :
    (∀ selection, read g (mirror path) selection = .ok c) ∧
      read g path ⟨sheet, none, none⟩ = .ok c.sheetForm := by
  unfold write at hw
  split at hw
  · cases hw
  rename_i between hsheet
  split at hw
  · cases hw
  rename_i hjson
  cases hw
  obtain ⟨bytes, hbook⟩ := writeSheet_eq_ok hsheet
  obtain ⟨hfound, hmirror⟩ := find?_of_writes hx hbook (writeJson_eq_ok hjson)
  constructor
  · intro selection
    obtain ⟨place, hnew, -⟩ := Files.write_eq_ok hbook
    rw [read, isJson_mirror (Files.locateNew_eq_ok hnew).1, if_pos rfl, readJson, Files.text?,
      hmirror]
    simp only [Option.bind_some, Content.text?, hc.text]
  · have hjson : isJson path = false := Path.hasExtension_of_ne hx (by decide)
    have hcsv : isCsv path = false := Path.hasExtension_of_ne hx (by decide)
    rw [Workbook.ofSheet?, hc.cells, Option.map_some] at hfound
    simp only [read, hjson, hcsv, Bool.false_eq_true, if_false, readSheet, readWorkbook, hfound,
      Option.bind_some, Content.workbook?, isForeignWorkbook_of_xlsx hx, List.lookup_cons,
      beq_self_eq_true]
    exact Sheet.selectRecords_ofRecords hnames

end Records

namespace Transfer

/-- The parameters of `load` and `save` that name a file and, if given, a sheet. -/
def parameters (path : String) (sheet? : Option String) : Value :=
  .object (("path", .string path) :: sheet?.toList.map fun name => ("sheetName", .string name))

theorem readRecord_parameters {st : Shape.Struct} (h : st = loadStruct ∨ st = saveStruct)
    (path : String) (sheet? : Option String) :
    ∃ r : Record, Shape.readRecord st (parameters path sheet?) = .ok r ∧
      r.text? "path" = some path ∧ r.text? "sheetName" = sheet? ∧ r.text? "rangeFrom" = none ∧
      r.text? "rangeTo" = none := by
  obtain rfl | rfl := h <;> cases sheet? <;> exact ⟨_, rfl, rfl, rfl, rfl, rfl⟩

theorem saveTarget_parameters {s : Store} {job : String} {c : Collection} (h : s.get? job = some c)
    (base : Option String) (path : String) (sheet? : Option String) :
    saveTarget base s job (parameters path sheet?) =
      .ok (Path.joinTo base path, sheet?.getD job, c) := by
  obtain ⟨r, hr, hpath, hsheet, -, -⟩ := readRecord_parameters (.inr rfl) path sheet?
  have hfind : s.find job = .ok c := Store.find_eq_ok.2 h
  simp only [saveTarget, Operator.readWith_eq_ok.2 hr, Record.required_eq_ok.2 hpath, hsheet, hfind,
    bind, Except.bind]
  rfl

theorem records_parameters {files : Files} {base : Option String} {job path : String}
    {sheet? : Option String} {c : Collection}
    (h : Records.read files (Path.joinTo base path) ⟨sheet?.getD job, none, none⟩ = .ok c) :
    records base files job (parameters path sheet?) =
      .ok (c, readEntry c.length (Path.joinTo base path)) := by
  obtain ⟨r, hr, hpath, hsheet, hfrom, hto⟩ := readRecord_parameters (.inl rfl) path sheet?
  simp only [records, Operator.readWith_eq_ok.2 hr, Record.required_eq_ok.2 hpath, hsheet, hfrom,
    hto, h, bind, Except.bind]
  rfl

/-- What is loaded where the records of a file are read. -/
theorem load_of_read {setting : Setting} {job path : String} {sheet? : Option String}
    {c : Collection} {s : Session}
    (h : Records.read s.files (Path.joinTo setting.base path) ⟨sheet?.getD job, none, none⟩ =
      .ok c) :
    ∃ t, Operator.load.run setting job (parameters path sheet?) s = (.ok (), t) ∧
      t.store = s.store.insert job c := by
  rw [Operator.run_eq, Operator.change, records_parameters h]
  exact ⟨_, rfl, rfl⟩

/-- What was written where a collection is saved. -/
theorem write_of_save {setting : Setting} {job path : String} {sheet? : Option String}
    {c : Collection} {s t : Session} (hstore : s.store.get? job = some c)
    (h : Operator.save.run setting job (parameters path sheet?) s = (.ok (), t)) :
    Records.write s.files (Path.joinTo setting.base path) (sheet?.getD job) c =
      (t.files, .ok ()) := by
  rw [Operator.run_eq, Operator.change, Operator.filesAfter, saveTarget_parameters hstore] at h
  rcases hw : Records.write s.files (Path.joinTo setting.base path) (sheet?.getD job) c with
    ⟨files, e | ⟨⟩⟩
  · simp only [hw, ofTable, bind, Except.bind] at h
    cases h
  · simp only [hw, ofTable, bind, Except.bind] at h
    cases h
    rfl

/-- A collection is saved where its records are written. -/
theorem save_of_write {setting : Setting} {job path : String} {sheet? : Option String}
    {c : Collection} {s : Session} {files : Files} (hstore : s.store.get? job = some c)
    (h : Records.write s.files (Path.joinTo setting.base path) (sheet?.getD job) c =
      (files, .ok ())) :
    ∃ t, Operator.save.run setting job (parameters path sheet?) s = (.ok (), t) ∧
      t.files = files := by
  rw [Operator.run_eq, Operator.change, Operator.filesAfter, saveTarget_parameters hstore]
  simp only [h, ofTable, bind, Except.bind]
  exact ⟨_, rfl, rfl⟩

/-- **Loading what was saved.** After a collection whose records have no empty field names was saved
to a workbook, the mirror of that is loaded as the collection itself, and the sheet as its sheet
form, by any job and for as long as the files are the same. The files have to be faithful, which
those of readable records with plain texts are (`Collection.faithful`). -/
theorem load_saved (setting : Setting) (job path : String) (sheet? : Option String)
    (c : Collection) (s t : Session) (hstore : s.store.get? job = some c)
    (hnames : ∀ r, .object r ∈ c → ∀ k ∈ Record.keys r, k ≠ "")
    (hx : Path.hasExtension path "xlsx" = true) (hc : c.Faithful)
    (hsave : Operator.save.run setting job (parameters path sheet?) s = (.ok (), t))
    (job' : String) (u : Session) (hfiles : u.files = t.files) :
    (∃ v, Operator.load.run setting job' (parameters (path ++ ".json") none) u = (.ok (), v) ∧
      v.store = u.store.insert job' c) ∧
    ∃ v, Operator.load.run setting job' (parameters path (some (sheet?.getD job))) u =
        (.ok (), v) ∧
      v.store = u.store.insert job' c.sheetForm := by
  obtain ⟨hmirror, hsheet⟩ := Records.read_written (Path.hasExtension_joinTo hx setting.base) hnames
    hc (write_of_save hstore hsave)
  rw [← hfiles] at hmirror hsheet
  constructor
  · refine load_of_read ?_
    rw [Path.joinTo_append (by decide)]
    exact hmirror _
  · exact load_of_read hsheet

/-- A list in which fields are missing or null, and one element is no record. -/
def guests : Collection :=
  [.object [("likes", .array [.string "tea"]), ("table", .null)], .string "and more",
    .object [("name", .string "Ada"), ("seats", .number (.int 2 (by decide)))],
    .object [("table", .null)], .object [("likes", .bool false), ("name", .string "")]]

/-- A session that holds the list and no files. -/
def guestSession : Session := ⟨.ofList [("guests", guests)], default, []⟩

theorem names_guests (r : Record) (h : .object r ∈ guests) : ∀ k ∈ Record.keys r, k ≠ "" := by
  have hall : ∀ v ∈ guests, ∀ k ∈ Record.keys (v.fields?.getD []), k ≠ "" := by decide
  exact hall _ h

theorem write_guests : (Records.write default "party.xlsx" "All" guests).2 = .ok () := by
  have hbook : "party.xlsx".contains '\x00' = false := by simp
  have hmirror : "party.xlsx.json".contains '\x00' = false := by simp
  have hname : Records.mirror "party.xlsx" = "party.xlsx.json" := by decide +kernel
  simp only [Records.write, Records.writeSheet, Records.writeJson, hname, Files.write,
    Files.locateNew, Files.locate, Files.locateParts, hbook, hmirror]
  decide +kernel

theorem load_saved_guests :
    ∃ t, Operator.save.run ⟨none, .empty⟩ "guests" (parameters "party.xlsx" (some "All"))
        guestSession = (.ok (), t) ∧
      (∃ v, Operator.load.run ⟨none, .empty⟩ "again" (parameters "party.xlsx.json" none) t =
        (.ok (), v) ∧ v.store.get? "again" = some guests) ∧
      ∃ v, Operator.load.run ⟨none, .empty⟩ "again" (parameters "party.xlsx" (some "All")) t =
          (.ok (), v) ∧
        v.store.get? "again" = some [.object [("likes", .string "[\"tea\"]")],
          .object [("name", .string "Ada"), ("seats", .number (.int 2 (by decide)))],
          .object [("likes", .bool false)]] := by
  have hstore : guestSession.store.get? "guests" = some guests := by decide
  have hwrite : Records.write guestSession.files (Path.joinTo none "party.xlsx")
      ((some "All").getD "guests") guests = (_, .ok ()) := Prod.ext rfl write_guests
  obtain ⟨t, hsave, -⟩ := @save_of_write ⟨none, .empty⟩ _ _ _ _ _ _ hstore hwrite
  obtain ⟨⟨v, hv, hmirror⟩, w, hw, hsheet⟩ := load_saved ⟨none, .empty⟩ "guests" "party.xlsx"
    (some "All") guests _ t hstore names_guests (by decide +kernel)
    ⟨by decide +kernel, by decide +kernel⟩ hsave "again" t rfl
  have hform : guests.sheetForm = [.object [("likes", .string "[\"tea\"]")],
      .object [("name", .string "Ada"), ("seats", .number (.int 2 (by decide)))],
      .object [("likes", .bool false)]] := by decide +kernel
  refine ⟨t, hsave, ⟨v, hv, ?_⟩, w, hw, ?_⟩
  · rw [hmirror, Catalog.get?_insert, if_pos rfl]
  · rw [hsheet, Catalog.get?_insert, if_pos rfl, hform]

end Transfer

end Reshape
