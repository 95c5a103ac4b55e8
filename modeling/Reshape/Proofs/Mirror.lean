import Reshape.Records

/-!
# Files that were written

A file is found where it was written, and no other file is touched. The JSON text of a workbook
stands beside it, under its name with an extension added.

* `Files.find?_of_write`, `Files.find?_write_of_ne`: what is found after a file is written.
* `Path.parts_append`: an extension belongs to the last part of a path.
* `Records.find?_of_writes`: a workbook and its mirror are two files of one directory.
-/

namespace Reshape

/-! ## Places of files -/

namespace Files

variable {f g : Files}

theorem write_eq_ok {path : String} {c : Content} (h : f.write path c = .ok g) :
    ∃ place, f.locateNew path = .ok place ∧ f.isDirectory place = false ∧
      g = { f with entries := f.entries.insert (key place) c } := by
  unfold write at h
  split at h
  · cases h
  · rename_i place hp
    split at h <;> cases h
    rename_i hd
    exact ⟨place, hp, Bool.eq_false_iff.2 hd, rfl⟩

/-- What is written at a path ends in a name. -/
theorem locateNew_eq_ok {path : String} {place : List String} (h : f.locateNew path = .ok place) :
    (Path.parts path).getLast? ≠ some "" ∧ f.locate path = .ok place := by
  unfold locateNew at h
  dsimp only at h
  split at h
  · split at h <;> cases h
  · rename_i hlast
    exact ⟨hlast, h⟩

/-- A directory stays one when a file is written. -/
theorem isDirectory_insert {place : List String} (h : f.isDirectory place = true) (k : String)
    (c : Content) : isDirectory { f with entries := f.entries.insert k c } place = true := by
  unfold isDirectory at h ⊢
  rw [Bool.or_eq_true] at h ⊢
  refine h.imp id fun h => ?_
  rw [List.any_eq_true] at h ⊢
  obtain ⟨n, hn, hp⟩ := h
  exact ⟨n, Catalog.mem_names_insertEntry.2 (.inr hn), hp⟩

/-- Where a part of a path leads from a directory. -/
def enter (place : List String) (p : String) : Except FileError (List String) :=
  if p = "" ∨ p = "." then .ok place
  else if p = ".." then .ok place.dropLast
  else if maxPart < p.utf8ByteSize then .error .tooLong
  else .ok (place ++ [p])

theorem walk_cons_eq_ok {place dest : List String} {p : String} {ps : List String} :
    f.walk place (p :: ps) = .ok dest ↔
      f.isDirectory place = true ∧
        ∃ next, enter place p = .ok next ∧ f.walk next ps = .ok dest := by
  rw [walk, enter]
  cases hd : f.isDirectory place with
  | false => simp
  | true =>
    simp only [Bool.not_true, Bool.false_eq_true, if_false, true_and]
    repeat' split
    all_goals simp

theorem walk_append_eq_ok {place dest : List String} {ps qs : List String} :
    f.walk place (ps ++ qs) = .ok dest ↔
      ∃ mid, f.walk place ps = .ok mid ∧ f.walk mid qs = .ok dest := by
  induction ps generalizing place with
  | nil => simp [walk]
  | cons p ps ih =>
    simp only [List.cons_append, walk_cons_eq_ok, ih]
    constructor
    · rintro ⟨hd, next, hn, mid, hm, ht⟩
      exact ⟨mid, ⟨hd, next, hn, hm⟩, ht⟩
    · rintro ⟨mid, ⟨hd, next, hn, hm⟩, ht⟩
      exact ⟨hd, next, hn, mid, hm, ht⟩

/-- A name leads to a file of the directory. -/
theorem walk_name {place dest : List String} {p : String} (hp : p ≠ "" ∧ p ≠ "." ∧ p ≠ "..")
    (h : f.walk place [p] = .ok dest) : dest = place ++ [p] := by
  obtain ⟨-, next, hn, ht⟩ := walk_cons_eq_ok.1 h
  cases ht
  simp only [enter, hp.1, hp.2.1, hp.2.2, or_self, if_false] at hn
  split at hn <;> cases hn
  rfl

/-- Where there are more directories, a path that leads somewhere still leads there. -/
theorem walk_mono (h : ∀ place, f.isDirectory place = true → g.isDirectory place = true)
    {place dest : List String} {ps : List String} (hw : f.walk place ps = .ok dest) :
    g.walk place ps = .ok dest := by
  induction ps generalizing place with
  | nil => exact hw
  | cons p ps ih =>
    obtain ⟨hd, next, hn, ht⟩ := walk_cons_eq_ok.1 hw
    exact walk_cons_eq_ok.2 ⟨h place hd, next, hn, ih ht⟩

theorem locate_eq_ok {path : String} {place : List String} :
    f.locate path = .ok place ↔
      (¬ path.contains '\x00' = true ∧ path ≠ "" ∧ ¬ maxPath < path.utf8ByteSize) ∧
        f.walk (if Path.isAbsolute path then [] else f.home) (Path.parts path) = .ok place := by
  unfold locate locateParts
  split
  · simp_all
  split
  · simp_all
  split
  · simp_all
  · simp_all

/-- A path leads where it did before a file was written. -/
theorem locate_insert {path : String} {place : List String} (h : f.locate path = .ok place)
    (k : String) (c : Content) :
    locate { f with entries := f.entries.insert k c } path = .ok place := by
  obtain ⟨hpath, hw⟩ := locate_eq_ok.1 h
  exact locate_eq_ok.2 ⟨hpath, walk_mono (fun _ hd => isDirectory_insert hd k c) hw⟩

/-- A file is found where it was written. -/
theorem find?_of_write {path : String} {c : Content} (h : f.write path c = .ok g) :
    g.find? path = some c := by
  obtain ⟨place, hp, -, rfl⟩ := write_eq_ok h
  rw [find?, locate_insert (locateNew_eq_ok hp).2]
  exact Catalog.get?_insert_self ..

/-- Another file is found as it was. -/
theorem find?_write_of_ne {path other : String} {c : Content} {place dest : List String}
    (h : f.write path c = .ok g) (hp : f.locate path = .ok place) (ho : f.locate other = .ok dest)
    (hne : key dest ≠ key place) : g.find? other = f.find? other := by
  obtain ⟨place', hp', -, rfl⟩ := write_eq_ok h
  obtain rfl : place' = place := Except.ok.inj ((locateNew_eq_ok hp').2.symm.trans hp)
  rw [find?, find?, locate_insert ho, ho]
  exact Catalog.get?_insert_of_ne hne ..

/-- Two files of one directory have names of their own. -/
theorem eq_of_key {place : List String} {p q : String}
    (h : key (place ++ [p]) = key (place ++ [q])) : p = q := by
  cases place with
  | nil => simpa [key] using h
  | cons r place =>
    simp only [key] at h
    rw [String.intercalate_append_of_ne_nil (List.cons_ne_nil r place) (List.cons_ne_nil p []),
      String.intercalate_append_of_ne_nil (List.cons_ne_nil r place) (List.cons_ne_nil q [])] at h
    simpa using h

end Files

/-! ## Paths with an extension -/

namespace Path

theorem splitChars_append {suffix : List Char} (hs : '/' ∉ suffix) (cs : List Char) :
    ∃ ps p, splitChars cs = ps ++ [p] ∧ splitChars (cs ++ suffix) = ps ++ [p ++ suffix] := by
  induction cs with
  | nil =>
    refine ⟨[], [], rfl, ?_⟩
    induction suffix with
    | nil => rfl
    | cons c suffix ih =>
      simp only [List.mem_cons, not_or] at hs
      have := ih hs.2
      simp only [List.nil_append] at this ⊢
      rw [splitChars, if_neg (Ne.symm hs.1), this]
  | cons c cs ih =>
    obtain ⟨ps, p, hp, hps⟩ := ih
    rw [List.cons_append, splitChars, splitChars, hp, hps]
    split
    · exact ⟨[] :: ps, p, rfl, rfl⟩
    · cases ps with
      | nil => exact ⟨[], c :: p, rfl, rfl⟩
      | cons q ps => exact ⟨(c :: q) :: ps, p, rfl, rfl⟩

/-- An extension belongs to the last part of a path. -/
theorem parts_append {ext : String} (h : '/' ∉ ext.toList) (path : String) :
    ∃ ps p, parts path = ps ++ [p] ∧ parts (path ++ ext) = ps ++ [p ++ ext] := by
  obtain ⟨ps, p, hp, hps⟩ := splitChars_append h path.toList
  refine ⟨ps.map String.ofList, String.ofList p, by simp [parts, hp], ?_⟩
  simp [parts, String.toList_append, hps, String.ofList_append]

theorem isAbsolute_append {ext : String} (h : isAbsolute ext = false) (path : String) :
    isAbsolute (path ++ ext) = isAbsolute path := by
  unfold isAbsolute at h ⊢
  rw [String.toList_append]
  cases path.toList with
  | nil => simp_all
  | cons c cs => rfl

/-- An extension is added alike to a path and to what it is from a directory. -/
theorem joinTo_append {ext : String} (h : isAbsolute ext = false) (dir : Option String)
    (path : String) : joinTo dir (path ++ ext) = joinTo dir path ++ ext := by
  cases dir with
  | none => rfl
  | some dir =>
    simp only [joinTo, join, isAbsolute_append h]
    split
    · rfl
    split <;> simp only [String.append_assoc]

theorem splitChars_ne_nil (cs : List Char) : splitChars cs ≠ [] := by
  cases cs with
  | nil => simp [splitChars]
  | cons c cs =>
    rw [splitChars]
    split
    · simp
    · split <;> simp

theorem splitChars_slash (cs ds : List Char) :
    splitChars (cs ++ '/' :: ds) = splitChars cs ++ splitChars ds := by
  induction cs with
  | nil => simp [splitChars]
  | cons c cs ih =>
    rw [List.cons_append, splitChars, splitChars, ih]
    split
    · rfl
    · cases h : splitChars cs with
      | nil => exact absurd h (splitChars_ne_nil cs)
      | cons p ps => rfl

/-- From a directory, a path ends in the same parts. -/
theorem parts_joinTo (dir : Option String) (path : String) :
    ∃ ps, parts (joinTo dir path) = ps ++ parts path := by
  cases dir with
  | none => exact ⟨[], rfl⟩
  | some dir =>
    simp only [joinTo, join]
    split
    · exact ⟨[], rfl⟩
    split
    · rename_i hslash
      obtain ⟨d, hd⟩ := List.getLast?_eq_some_iff.1 hslash
      refine ⟨(splitChars d).map String.ofList, ?_⟩
      rw [parts, String.toList_append, hd, List.append_assoc, List.singleton_append,
        splitChars_slash, List.map_append, parts]
    · refine ⟨parts dir, ?_⟩
      have hlist : (dir ++ "/" ++ path).toList = dir.toList ++ '/' :: path.toList := by simp
      rw [parts, hlist, splitChars_slash, List.map_append, parts, parts]

/-- A path with an extension has it from every directory. -/
theorem hasExtension_joinTo {path ext : String} (h : hasExtension path ext = true)
    (dir : Option String) : hasExtension (joinTo dir path) ext = true := by
  obtain ⟨ps, hps⟩ := parts_joinTo dir path
  have hname : fileName? (joinTo dir path) = fileName? path := by
    cases hlast : ((parts path).filter fun p => p ≠ "" ∧ p ≠ ".").getLast? with
    | none =>
      have hnone : fileName? path = none := by rw [fileName?, hlast]
      simp [hasExtension, extension?, hnone] at h
    | some p =>
      unfold fileName?
      rw [hps, List.filter_append, List.getLast?_append, hlast]
      rfl
  unfold hasExtension extension? at h ⊢
  rwa [hname]

theorem fileName?_of_last {path : String} {ps : List String} {p : String}
    (hp : parts path = ps ++ [p]) (h : p ≠ "" ∧ p ≠ "." ∧ p ≠ "..") :
    fileName? path = some p.toList.reverse := by
  have hlast : ((parts path).filter fun q => q ≠ "" ∧ q ≠ ".").getLast? = some p := by
    rw [hp, List.filter_append, List.filter_cons_of_pos (by simp [h.1, h.2.1]), List.filter_nil,
      List.getLast?_concat]
  unfold fileName?
  rw [hlast]
  split
  · rename_i he
    cases he
  · rename_i he
    exact absurd (Option.some.inj he) h.2.2
  · rename_i he
    rw [Option.some.inj he]

/-- A path that ends in a step upwards has no extension. -/
theorem ne_up_of_hasExtension {path ext : String} {ps : List String} {p : String}
    (h : hasExtension path ext = true) (hp : parts path = ps ++ [p]) : p ≠ ".." := by
  rintro rfl
  have hname : fileName? path = none := by simp [fileName?, hp]
  simp [hasExtension, extension?, hname] at h

theorem hasExtension_of_ne {path a b : String} (h : hasExtension path a = true)
    (hne : a.toList ≠ b.toList) : hasExtension path b = false := by
  unfold hasExtension at h ⊢
  split
  · rfl
  · rename_i e he
    simp only [he, decide_eq_true_eq] at h
    rw [h, decide_eq_false hne]

end Path

namespace Records

/-- The mirror of a file's path has the extension of JSON. -/
theorem isJson_mirror {path : String} (h : (Path.parts path).getLast? ≠ some "") :
    isJson (mirror path) = true := by
  obtain ⟨ps, p, hp, hps⟩ := Path.parts_append (by decide : '/' ∉ ".json".toList) path
  have hlen : 5 < (p ++ ".json").length := by
    have hne : p.toList ≠ [] := by simpa [hp] using h
    have hpos := List.length_pos_iff.2 hne
    have hjson : ".json".length = 5 := rfl
    rw [String.length_toList] at hpos
    rw [String.length_append, hjson]
    omega
  have hplain : p ++ ".json" ≠ "" ∧ p ++ ".json" ≠ "." ∧ p ++ ".json" ≠ ".." := by
    refine ⟨?_, ?_, ?_⟩ <;> exact fun he => absurd (he ▸ hlen) (by decide)
  have htake : (p ++ ".json").toList.reverse.takeWhile (· ≠ '.') = ['n', 'o', 's', 'j'] := by simp
  have hdrop : ¬ ((p ++ ".json").toList.reverse.drop 4).length ≤ 1 := by
    rw [List.length_drop, List.length_reverse, String.length_toList]
    omega
  have hext : Path.extension? (mirror path) = some "json" := by
    simp only [Path.extension?, mirror, Path.fileName?_of_last hps hplain, htake]
    exact if_neg hdrop
  rw [isJson, Path.hasExtension, hext]
  decide

/-- What is not written as a workbook here has another extension. -/
theorem isForeignWorkbook_of_xlsx {path : String} (h : Path.hasExtension path "xlsx" = true) :
    isForeignWorkbook path = false := by
  unfold Path.hasExtension at h
  unfold isForeignWorkbook
  cases he : Path.extension? path with
  | none => rfl
  | some e =>
    simp only [he, decide_eq_true_eq] at h
    have others : ∀ o ∈ ["xls", "xla", "xlsb", "ods"],
        o.toList.map Path.smallLetter ≠ "xlsx".toList := by decide
    exact Bool.eq_false_iff.2 fun hc => others e (List.contains_iff_mem.1 hc) h

/-- A written file has a name, unless its path ends in a step upwards. -/
theorem last_of_write {f g : Files} {path : String} {c : Content} (h : f.write path c = .ok g)
    {ps : List String} {p : String} (hp : Path.parts path = ps ++ [p]) : p ≠ "" ∧ p ≠ "." := by
  obtain ⟨place, hnew, hd, -⟩ := Files.write_eq_ok h
  obtain ⟨hlast, hloc⟩ := Files.locateNew_eq_ok hnew
  refine ⟨by simpa [hp] using hlast, ?_⟩
  rintro rfl
  obtain ⟨-, hw⟩ := Files.locate_eq_ok.1 hloc
  rw [hp] at hw
  obtain ⟨mid, -, hm⟩ := Files.walk_append_eq_ok.1 hw
  obtain ⟨hdir, next, hn, ht⟩ := Files.walk_cons_eq_ok.1 hm
  cases hn
  cases ht
  rw [hdir] at hd
  cases hd

/-- **A workbook and its mirror are both found after they were written.** -/
theorem find?_of_writes {f g h : Files} {path : String} {book text : Content}
    (hx : Path.hasExtension path "xlsx" = true) (hbook : f.write path book = .ok g)
    (htext : g.write (mirror path) text = .ok h) :
    h.find? path = some book ∧ h.find? (mirror path) = some text := by
  refine ⟨?_, Files.find?_of_write htext⟩
  obtain ⟨ps, p, hp, hps⟩ := Path.parts_append (by decide : '/' ∉ ".json".toList) path
  obtain ⟨hne, hdot⟩ := last_of_write hbook hp
  obtain ⟨hne', hdot'⟩ := last_of_write htext hps
  have hup' : p ++ ".json" ≠ ".." := by
    intro he
    have := congrArg (·.toList.getLast?) he
    simp at this
  obtain ⟨place, hnew, -, rfl⟩ := Files.write_eq_ok hbook
  obtain ⟨dest, hnew', -, -⟩ := Files.write_eq_ok htext
  have hloc := Files.locate_insert (Files.locateNew_eq_ok hnew).2 (Files.key place) book
  have hloc' := (Files.locateNew_eq_ok hnew').2
  -- Both paths lead through the same directory.
  obtain ⟨-, hw⟩ := Files.locate_eq_ok.1 hloc
  obtain ⟨-, hw'⟩ := Files.locate_eq_ok.1 hloc'
  rw [hp] at hw
  rw [mirror, Path.isAbsolute_append (by decide), hps] at hw'
  obtain ⟨mid, hm, hlast⟩ := Files.walk_append_eq_ok.1 hw
  obtain ⟨mid', hm', hlast'⟩ := Files.walk_append_eq_ok.1 hw'
  cases hm.symm.trans hm'
  obtain rfl := Files.walk_name ⟨hne, hdot, Path.ne_up_of_hasExtension hx hp⟩ hlast
  obtain rfl := Files.walk_name ⟨hne', hdot', hup'⟩ hlast'
  rw [Files.find?_write_of_ne htext hloc' hloc fun he => ?_, Files.find?_of_write hbook]
  have hlen := congrArg String.length (Files.eq_of_key he)
  rw [String.length_append] at hlen
  exact absurd hlen (by simp)

end Records

end Reshape
