import Blueprints.Settings.Basic
import Mathlib.Data.List.DropRight

namespace Blueprints.Ini

open Text

/-- The line that opens the section `name`. -/
def headerLine (name : String) : String := "[" ++ name ++ "]\n"

def optionLine (key value : String) : String := key ++ " = " ++ value ++ "\n"

/-- A value that an option line holds as it is: no line break, and no blank at either end. -/
def OneLine (v : String) : Prop :=
  '\n' ∉ v.toList ∧ '\r' ∉ v.toList ∧ v.toList.head?.all (!isBlankChar ·) ∧
    v.toList.getLast?.all (!isBlankChar ·)

instance : DecidablePred OneLine := fun _ => inferInstanceAs (Decidable (_ ∧ _ ∧ _ ∧ _))

/-- Line breaks end the lines of a text that has no carriage return. -/
theorem splitLines_append_break {line cs : List Char} (rest : List Char)
    (hn : '\n' ∉ cs) (hr : '\r' ∉ cs) :
    splitLines line (cs ++ '\n' :: rest) = (line ++ cs ++ ['\n']) :: splitLines [] rest := by
  induction cs generalizing line with
  | nil => simp [splitLines]
  | cons c cs ih =>
    have hcn : c ≠ '\n' := fun h => hn (h ▸ List.mem_cons_self)
    have hcr : c ≠ '\r' := fun h => hr (h ▸ List.mem_cons_self)
    rw [List.cons_append, splitLines.eq_5 _ _ _ (fun _ h _ => hcr h) hcr hcn,
      ih (fun h => hn (List.mem_cons_of_mem _ h)) (fun h => hr (List.mem_cons_of_mem _ h))]
    simp

theorem splitLines_lines {lines : List (List Char)} (h : ∀ l ∈ lines, '\n' ∉ l ∧ '\r' ∉ l) :
    splitLines [] (lines.flatMap (· ++ ['\n'])) = lines.map (· ++ ['\n']) := by
  induction lines with
  | nil => simp [splitLines]
  | cons l lines ih =>
    obtain ⟨hn, hr⟩ := h l List.mem_cons_self
    rw [List.flatMap_cons, List.append_assoc, List.singleton_append, splitLines_append_break _ hn hr,
      ih (fun l' hl' => h l' (List.mem_cons_of_mem _ hl'))]
    simp

/-- The lines of the settings file that `set config` writes. -/
theorem linesOf_fileText {ip port user password project level : String}
    (h : ∀ v ∈ [ip, port, user, password, project, level], '\n' ∉ v.toList ∧ '\r' ∉ v.toList) :
    linesOf (Settings.fileText ip port user password project level) =
      [headerLine "SERVER", optionLine "pc_ip" ip, optionLine "pc_port" port,
        optionLine "pc_username" user, optionLine "pc_password" password, "\n",
        headerLine "PROJECT", optionLine "name" project, "\n", headerLine "LOG",
        optionLine "level" level, "\n", headerLine "CATEGORIES"] := by
  let lines := ["[SERVER]", "pc_ip = " ++ ip, "pc_port = " ++ port, "pc_username = " ++ user,
    "pc_password = " ++ password, "", "[PROJECT]", "name = " ++ project, "", "[LOG]",
    "level = " ++ level, "", "[CATEGORIES]"]
  have htext : (Settings.fileText ip port user password project level).toList =
      (lines.map String.toList).flatMap (· ++ ['\n']) := by
    simp [Settings.fileText, lines]
  have hbreaks : ∀ l ∈ lines.map String.toList, '\n' ∉ l ∧ '\r' ∉ l := by
    simp only [List.mem_cons] at h
    simp [lines, h]
  have hback (s : String) : String.ofList (s.toList ++ ['\n']) = s ++ "\n" := by
    rw [← String.toList_inj]; simp
  rw [linesOf, htext, splitLines_lines hbreaks, List.map_map, List.map_map]
  simp only [Function.comp_def, hback, lines, List.map_cons, List.map_nil]
  simp [headerLine, optionLine, String.append_assoc]

/-- A key that an option line holds as it is: it starts with no blank, comment or bracket, ends
    with no blank, and holds no `=` or `:`. -/
def OptionKey (key : String) : Prop :=
  key.toList.head?.any (fun c => !isBlankChar c && c != '#' && c != ';' && c != '[') ∧
    key.toList.getLast?.all (!isBlankChar ·) ∧ key.toList.all (fun c => c != '=' && c != ':')

instance : DecidablePred OptionKey := fun _ => inferInstanceAs (Decidable (_ ∧ _ ∧ _))

theorem trim_toList (s : String) :
    (trim s).toList = (s.toList.dropWhile isBlankChar).rdropWhile isBlankChar := by
  simp [trim, List.rdropWhile]

theorem trimEnd_toList (s : String) : (trimEnd s).toList = s.toList.rdropWhile isBlankChar := by
  simp [trimEnd, List.rdropWhile]

theorem rdropWhile_blank_of_getLast {l : List Char} (h : l.getLast?.all (!isBlankChar ·)) :
    l.rdropWhile isBlankChar = l := by
  rcases List.eq_nil_or_concat l with rfl | ⟨l', b, rfl⟩
  · simp
  · simp only [List.concat_eq_append, List.getLast?_append, List.getLast?_singleton,
      Option.some_or, Option.all_some, Bool.not_eq_eq_eq_not, Bool.not_true] at h
    rw [List.concat_eq_append]
    exact List.rdropWhile_concat_neg isBlankChar l' b (by simp [h])

theorem dropWhile_blank_of_head {l : List Char} (h : l.head?.all (!isBlankChar ·)) :
    l.dropWhile isBlankChar = l := by
  cases l with
  | nil => rfl
  | cons c l => simp only [List.head?_cons, Option.all_some, Bool.not_eq_eq_eq_not,
      Bool.not_true] at h; simp [h]

theorem trim_optionLine {key value : String} (hkey : OptionKey key) (hvalue : OneLine value) :
    (trim (optionLine key value)).toList =
      key.toList ++ ' ' :: '=' :: (if value = "" then [] else ' ' :: value.toList) := by
  obtain ⟨hhead, -, -⟩ := hkey
  obtain ⟨-, -, -, hlast⟩ := hvalue
  have hstart : (optionLine key value).toList.head?.all (!isBlankChar ·) := by
    cases hk : key.toList with
    | nil => simp [hk] at hhead
    | cons k ks =>
      simp only [hk, List.head?_cons, Option.any_some, Bool.and_eq_true] at hhead
      simp [optionLine, hk, hhead.1.1.1]
  have hline : (optionLine key value).toList =
      key.toList ++ [' ', '=', ' '] ++ value.toList ++ ['\n'] := by simp [optionLine]
  rw [trim_toList, dropWhile_blank_of_head hstart, hline,
    List.rdropWhile_concat_pos _ _ _ (by decide)]
  rcases List.eq_nil_or_concat value.toList with hnil | ⟨v', b, hv⟩
  · have hempty : value = "" := String.toList_eq_nil_iff.mp hnil
    have hsplit : key.toList ++ [' ', '=', ' '] ++ value.toList =
        (key.toList ++ [' '] ++ ['=']) ++ [' '] := by simp [hnil]
    rw [hsplit, List.rdropWhile_concat_pos isBlankChar _ ' ' (by decide),
      List.rdropWhile_concat_neg isBlankChar _ '=' (by decide)]
    simp [hempty]
  · have hempty : value ≠ "" := fun h => by simp [h] at hv
    have hb : isBlankChar b = false := by simpa [hv] using hlast
    rw [hv, List.concat_eq_append, ← List.append_assoc,
      List.rdropWhile_concat_neg isBlankChar _ b (by simp [hb]), if_neg hempty]
    simp

theorem optionParts_optionLine {key value : String} (hkey : OptionKey key)
    (hvalue : OneLine value) :
    optionParts? (trim (optionLine key value)) = some (key, value) := by
  have hline := trim_optionLine hkey hvalue
  obtain ⟨-, hkeyLast, hkeyChars⟩ := hkey
  obtain ⟨-, -, hvalueHead, hvalueLast⟩ := hvalue
  set tail : List Char := if value = "" then [] else ' ' :: value.toList with htail
  have hname : (key.toList ++ ' ' :: '=' :: tail).takeWhile (fun c => c != '=' && c != ':') =
      key.toList ++ [' '] := by
    rw [List.takeWhile_append_of_pos (List.all_eq_true.mp hkeyChars)]
    simp
  have hkeyBack : trimEnd (key ++ " ") = key := by
    rw [← String.toList_inj, trimEnd_toList, String.toList_append, show " ".toList = [' '] by rfl,
      List.rdropWhile_concat_pos isBlankChar _ ' ' (by decide), rdropWhile_blank_of_getLast hkeyLast]
  have hvalueBack : trim (String.ofList tail) = value := by
    rw [← String.toList_inj, trim_toList, String.toList_ofList]
    by_cases hempty : value = ""
    · simp [htail, hempty]
    · rw [htail, if_neg hempty, List.dropWhile_cons_of_pos (by decide),
        dropWhile_blank_of_head hvalueHead, rdropWhile_blank_of_getLast hvalueLast]
  have hdrop : (key.toList ++ ' ' :: '=' :: tail).drop (key.toList.length + 1 + 1) = tail := by
    rw [List.drop_append, List.drop_eq_nil_of_le (by omega),
      show key.toList.length + 1 + 1 - key.toList.length = 2 by omega]
    rfl
  simp only [optionParts?, hline, hname, List.length_append, List.length_cons]
  simp [hkeyBack, hdrop, hvalueBack]

theorem startsWith_eq_false_of_head {s : String} (pat : String) {c d : Char}
    (hs : s.toList.head? = some c) (hpat : pat.toList = [d]) (hne : c ≠ d) :
    s.startsWith pat = false := by
  rw [String.startsWith_string_eq_false_iff, hpat]
  cases h : s.toList with
  | nil => simp [h] at hs
  | cons c' rest =>
    simp only [h, List.head?_cons, Option.some.injEq] at hs
    simp [List.cons_prefix_cons, hs, Ne.symm hne]

theorem isEmpty_eq_false_of_head {s : String} {c : Char} (hs : s.toList.head? = some c) :
    s.isEmpty = false := by
  rw [Bool.eq_false_iff, ne_eq, String.isEmpty_iff]
  rintro rfl
  simp at hs

theorem indentOf_eq_zero {line : String} (h : line.toList.head?.all (!isBlankChar ·)) :
    indentOf line = 0 := by
  cases hl : line.toList with
  | nil => simp [indentOf, hl]
  | cons c rest => simp only [hl, List.head?_cons, Option.all_some, Bool.not_eq_eq_eq_not,
      Bool.not_true] at h; simp [indentOf, hl, h]

theorem headerName_eq_none_of_head {s : String} {c : Char} (hs : s.toList.head? = some c)
    (hc : c ≠ '[') : headerName? s = none := by
  cases h : s.toList with
  | nil => simp [h] at hs
  | cons c' rest =>
    simp only [h, List.head?_cons, Option.some.injEq] at hs
    subst hs
    simp [headerName?, h, hc]

@[simp] theorem Reading.optionsOf_with_indent (r : Reading) (i : Nat) (t : Target) :
    ({ r with indent := i }).optionsOf t = r.optionsOf t := by
  cases t <;> rfl

/-- The reading with a section of that name opened after the others. -/
def Reading.opened (r : Reading) (name : String) : Reading :=
  { r with
    indent := 0
    sections := r.sections ++ [(name, [])]
    target := some (.named name)
    option := none }

/-- The reading with an option added to the options of its target, as the option that a
    continued line would extend. -/
def Reading.added (r : Reading) (key value : String) : Reading :=
  let t := r.target.getD .shared
  { ({ r with indent := 0 }.withOptions t (r.optionsOf t ++ [(key, [value])])) with
    option := some key }

theorem trim_headerLine (name : String) :
    (trim (headerLine name)).toList = '[' :: name.toList ++ [']'] := by
  have hline : (headerLine name).toList = ('[' :: name.toList ++ [']']) ++ ['\n'] := by
    simp [headerLine]
  rw [trim_toList, hline, dropWhile_blank_of_head (by simp; decide),
    List.rdropWhile_concat_pos isBlankChar _ '\n' (by decide),
    List.rdropWhile_concat_neg isBlankChar _ ']' (by decide)]

/-- A header line opens a section of that name when no section has it yet. -/
theorem readLine_headerLine {file name : String} {r : Reading} {n : Nat} (hname : name ≠ "")
    (hdefault : name ≠ defaultSection) (hnew : name ∉ r.sections.map (·.1)) :
    readLine file r n (headerLine name) = .ok (r.opened name) := by
  have hnew' : r.sections.any (·.1 == name) = false := by
    simp only [List.any_eq_false, beq_iff_eq]
    exact fun s hs heq => hnew (List.mem_map.mpr ⟨s, hs, heq⟩)
  have hline := trim_headerLine name
  have hhead : (trim (headerLine name)).toList.head? = some '[' := by simp [hline]
  have hfull := isEmpty_eq_false_of_head hhead
  have hindent : indentOf (headerLine name) = 0 := indentOf_eq_zero (by simp [headerLine]; decide)
  have hheader : headerName? (trim (headerLine name)) = some name := by
    have hchars : name.toList ≠ [] := by simpa using hname
    simp [headerName?, hline, hchars]
  simp [readLine, startsWith_eq_false_of_head "#" hhead rfl (by decide),
    startsWith_eq_false_of_head ";" hhead rfl (by decide), hfull, hindent, hheader, hdefault, hnew']
  rfl

/-- An option line adds its key and value to the open section when the section does not hold
    the key yet. -/
theorem readLine_optionLine {file key value : String} {r : Reading} {n : Nat}
    (hkey : OptionKey key) (hvalue : OneLine value) (hopen : r.target.isSome)
    (hfresh : (r.optionsOf (r.target.getD .shared)).any (·.1 == key) = false) :
    readLine file r n (optionLine key value) = .ok (r.added key value) := by
  obtain ⟨t, htarget⟩ := Option.isSome_iff_exists.mp hopen
  rw [htarget, Option.getD_some] at hfresh
  have hparts := optionParts_optionLine hkey hvalue
  have hhead := hkey.1
  obtain ⟨k, ks, hk, hk0⟩ : ∃ k ks, key.toList = k :: ks ∧
      (!isBlankChar k && k != '#' && k != ';' && k != '[') = true := by
    cases h : key.toList with
    | nil => simp [h] at hhead
    | cons k ks => exact ⟨k, ks, rfl, by simpa [h] using hhead⟩
  simp only [Bool.and_eq_true, Bool.not_eq_eq_eq_not, Bool.not_true, bne_iff_ne, ne_eq] at hk0
  obtain ⟨⟨⟨hblank, hhash⟩, hsemi⟩, hbracket⟩ := hk0
  have hstripped : (trim (optionLine key value)).toList.head? = some k := by
    simp [trim_optionLine hkey hvalue, hk]
  have hindent : indentOf (optionLine key value) = 0 :=
    indentOf_eq_zero (by simp [optionLine, hk, hblank])
  have hfull := isEmpty_eq_false_of_head hstripped
  have hkeyFull : key ≠ "" := by
    rintro rfl
    simp at hk
  simp [readLine, startsWith_eq_false_of_head "#" hstripped rfl hhash,
    startsWith_eq_false_of_head ";" hstripped rfl hsemi, hfull, hindent,
    headerName_eq_none_of_head hstripped hbracket, htarget, hparts]
  simp [hkeyFull, hindent, hfresh]
  simp only [Reading.added, htarget, Option.getD_some]
  rfl

/-- A blank line adds an empty line to the value of the last option. -/
theorem readLine_blank (file : String) (r : Reading) (n : Nat) :
    readLine file r n "\n" = .ok (r.extend "") := by
  have hline : trim "\n" = "" := by decide
  simp [readLine, hline]
  rfl

theorem joinValue_singleton {v : String} (hv : v.toList.getLast?.all (!isBlankChar ·)) :
    joinValue [v] = v := by
  rw [joinValue, String.intercalate_singleton, ← String.toList_inj, trimEnd_toList,
    rdropWhile_blank_of_getLast hv]

theorem joinValue_blank {v : String} (hv : v.toList.getLast?.all (!isBlankChar ·)) :
    joinValue [v, ""] = v := by
  have hline : ("\n".intercalate [v, ""]).toList = v.toList ++ ['\n'] := by simp
  rw [joinValue, ← String.toList_inj, trimEnd_toList, hline,
    List.rdropWhile_concat_pos isBlankChar _ '\n' (by decide), rdropWhile_blank_of_getLast hv]

/-- The sections of the settings file that `set config` writes, with their options. -/
def fileSections (ip port user password project level : String) : List (String × Options) :=
  [("SERVER", [("pc_ip", ip), ("pc_port", port), ("pc_username", user), ("pc_password", password)]),
    ("PROJECT", [("name", project)]), ("LOG", [("level", level)]), ("CATEGORIES", [])]

/-- The settings file reads as the sections it was written with; a value continued by the blank
    line after it loses that line again. -/
theorem read_fileText {file ip port user password project level : String}
    (h : ∀ v ∈ [ip, port, user, password, project, level], OneLine v) :
    read file (Settings.fileText ip port user password project level) =
      .ok { sections := fileSections ip port user password project level } := by
  have hlines := linesOf_fileText (fun v hv => ⟨(h v hv).1, (h v hv).2.1⟩)
  simp only [List.mem_cons, List.not_mem_nil, or_false, forall_eq_or_imp, forall_eq] at h
  obtain ⟨hip, hport, huser, hpassword, hproject, hlevel⟩ := h
  have hkeys : OptionKey "pc_ip" ∧ OptionKey "pc_port" ∧ OptionKey "pc_username" ∧
      OptionKey "pc_password" ∧ OptionKey "name" ∧ OptionKey "level" := by decide
  obtain ⟨k1, k2, k3, k4, k5, k6⟩ := hkeys
  have hnames : "SERVER" ≠ defaultSection ∧ "PROJECT" ≠ defaultSection ∧ "LOG" ≠ defaultSection ∧
      "CATEGORIES" ≠ defaultSection := by decide
  obtain ⟨d1, d2, d3, d4⟩ := hnames
  rw [read, hlines]
  -- each of the thirteen lines is read by its lemma, the blank ones extending the option before
  simp [readLine_headerLine, readLine_optionLine, readLine_blank, k1, k2, k3, k4, k5, k6, hip, hport,
    huser, hpassword, hproject, hlevel, d1, d2, d3, d4, Reading.opened, Reading.added, Reading.extend,
    Reading.withOptions, Reading.optionsOf, List.lookup_cons, bind, Except.bind, pure, Except.pure,
    joinValue_singleton hip.2.2.2, joinValue_singleton hport.2.2.2, joinValue_singleton huser.2.2.2,
    joinValue_blank hpassword.2.2.2, joinValue_blank hproject.2.2.2, joinValue_blank hlevel.2.2.2,
    fileSections]

/-- A value that reads back as it is written: on one line and without `%`. -/
def Literal (v : String) : Prop := OneLine v ∧ '%' ∉ v.toList

instance : DecidablePred Literal := fun _ => inferInstanceAs (Decidable (_ ∧ _))

theorem resolve_of_percent_free {options : Options} {option sectionName raw : String}
    {fuel depth : Nat} {cs : List Char} (hfuel : 0 < fuel) (hdepth : 0 < depth) (h : '%' ∉ cs) :
    resolve options option sectionName raw fuel depth cs = .ok (String.ofList cs) := by
  obtain ⟨fuel, rfl⟩ : ∃ f, fuel = f + 1 := ⟨fuel - 1, by omega⟩
  obtain ⟨depth, rfl⟩ : ∃ d, depth = d + 1 := ⟨depth - 1, by omega⟩
  have hbefore : cs.takeWhile (· != '%') = cs :=
    List.takeWhile_eq_self_iff.mpr fun c hc => by simpa using ne_of_mem_of_not_mem hc h
  simp [resolve, hbefore]

/-- A settings file written with literal values reads back as exactly those values, and with an
    empty `[CATEGORIES]` section whatever categories were set before. -/
theorem fileText_reads_back {file ip port user password project level : String}
    (h : ∀ v ∈ [ip, port, user, password, project, level], Literal v) :
    (read file (Settings.fileText ip port user password project level) >>= Document.resolved) =
      .ok (fileSections ip port user password project level) := by
  rw [read_fileText fun v hv => (h v hv).1]
  simp only [List.mem_cons, List.not_mem_nil, or_false, forall_eq_or_imp, forall_eq] at h
  obtain ⟨hip, hport, huser, hpassword, hproject, hlevel⟩ := h
  -- the sections have no shared options and distinct keys: resolving keeps every value
  simp [fileSections, Document.resolved, Document.items, List.lookup_cons, resolve_of_percent_free,
    maxDepth, hip.2, hport.2, huser.2, hpassword.2, hproject.2, hlevel.2, bind, Except.bind, pure,
    Except.pure]

/-- Setting the configuration round-trips through the settings file. Read back with no variable
    of the environment set, each option given is in force, and every other server setting, the
    project and the log level keep the value they had, when every value written is on one line
    and without `%`; the categories come back empty, whatever they were. -/
theorem setFileText_reads_back (s : Settings) (project level file : String)
    (given : String → Option String)
    (h : ∀ v ∈ [(given "host").getD (s.serverValue "pc_ip"),
      (given "port").getD (s.serverValue "pc_port"),
      (given "username").getD (s.serverValue "pc_username"),
      (given "password").getD (s.serverValue "pc_password"), (given "project_name").getD project,
      (given "log_level").getD level], Literal v) :
    ∃ sections, (read file (s.setFileText project level given) >>= Document.resolved) =
        .ok sections ∧
      (Settings.ofSources ⟨[]⟩ sections).1.serverValue "pc_ip" =
        (given "host").getD (s.serverValue "pc_ip") ∧
      (Settings.ofSources ⟨[]⟩ sections).1.serverValue "pc_port" =
        (given "port").getD (s.serverValue "pc_port") ∧
      (Settings.ofSources ⟨[]⟩ sections).1.serverValue "pc_username" =
        (given "username").getD (s.serverValue "pc_username") ∧
      (Settings.ofSources ⟨[]⟩ sections).1.serverValue "pc_password" =
        (given "password").getD (s.serverValue "pc_password") ∧
      (Settings.ofSources ⟨[]⟩ sections).2 = (given "project_name").getD project ∧
      (Settings.ofSources ⟨[]⟩ sections).1.logLevel = (given "log_level").getD level ∧
      (Settings.ofSources ⟨[]⟩ sections).1.categories = [] := by
  refine ⟨_, fileText_reads_back h, ?_⟩
  -- with no variable set, the settings in force are the file's sections as they were written
  simp [Settings.ofSources, fileSections, Settings.part, Settings.environmentServer,
    Environment.get?, Settings.serverValue, Settings.update, List.lookup_cons]

/-- Setting only the user name over the settings of the environment writes a file that reads
    back with that user name and the other values as they were. -/
theorem setFileText_reads_back_username :
    (∀ v ∈ [(none : Option String).getD ((Settings.ofSources Environment.fixed []).1.serverValue
        "pc_ip"),
      (none : Option String).getD ((Settings.ofSources Environment.fixed []).1.serverValue
        "pc_port"),
      (some "ops").getD ((Settings.ofSources Environment.fixed []).1.serverValue "pc_username"),
      (none : Option String).getD ((Settings.ofSources Environment.fixed []).1.serverValue
        "pc_password"),
      (none : Option String).getD "default", (none : Option String).getD "CRITICAL"], Literal v) ∧
    ∃ sections, (read "config.ini" ((Settings.ofSources Environment.fixed []).1.setFileText
        "default" "CRITICAL" fun k => if k = "username" then some "ops" else none) >>=
        Document.resolved) = .ok sections ∧
      (Settings.ofSources ⟨[]⟩ sections).1.serverValue "pc_ip" = "127.0.0.1" ∧
      (Settings.ofSources ⟨[]⟩ sections).1.serverValue "pc_username" = "ops" ∧
      (Settings.ofSources ⟨[]⟩ sections).1.categories = [] := by
  have hlit : ∀ v ∈ [(none : Option String).getD
        ((Settings.ofSources Environment.fixed []).1.serverValue "pc_ip"),
      (none : Option String).getD ((Settings.ofSources Environment.fixed []).1.serverValue
        "pc_port"),
      (some "ops").getD ((Settings.ofSources Environment.fixed []).1.serverValue "pc_username"),
      (none : Option String).getD ((Settings.ofSources Environment.fixed []).1.serverValue
        "pc_password"),
      (none : Option String).getD "default", (none : Option String).getD "CRITICAL"], Literal v := by
    decide
  obtain ⟨sections, hread, hip, -, huser, -, -, -, hcategories⟩ :=
    setFileText_reads_back (Settings.ofSources Environment.fixed []).1 "default" "CRITICAL"
      "config.ini" (fun k => if k = "username" then some "ops" else none) hlit
  exact ⟨hlit, sections, hread, hip.trans (by decide), huser.trans (by decide), hcategories⟩

/-- A doubled `%` is written as it is and read back as one. -/
theorem fileText_doubled_percent_reads_single :
    (read "config.ini" (Settings.fileText "10.0.0.1" "9440" "a%%b" "secret" "default" "INFO")
        >>= Document.resolved) =
      .ok (fileSections "10.0.0.1" "9440" "a%b" "secret" "default" "INFO") := by
  rw [read_fileText (by decide)]
  rfl

end Blueprints.Ini
