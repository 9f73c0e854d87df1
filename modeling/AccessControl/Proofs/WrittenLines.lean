import AccessControl.Proofs.WrittenValues

/-!
# Reading written documents

A document consists of lines, which are ended by breaks outside of texts. A remark can stand at the end of every line:
the document is read as if it was not there, and it is the document that was written, with the members of its tables in
the order of their names.

## Implementation notes

A statement takes one line or, for an array, several. It is read by `statement?` whatever the remarks are, and then
`lines?` adds what it says to the draft; so reading the lines of a document is `run` over its statements.
-/
namespace AccessControl.Toml

/-! ## Lines -/

/-- A path as a dotted key. -/
def pathText (path : List String) : String :=
  ".".intercalate (path.map nameText)

/-- The lines of a statement; a break inside a text ends no line. -/
def Statement.lines : Statement → List String
  | .binding path v =>
    match valueLines v with
    | [] => []
    | first :: rest => (pathText path ++ " = " ++ first) :: rest
  | .header path => ["[" ++ pathText path ++ "]"]
  | .element path => ["[[" ++ pathText path ++ "]]"]

/-- The lines of a document with the given members: groups are separated by empty lines. -/
def documentLines (members : List (String × Toml)) : List String :=
  [""].intercalate ((documentGroups members).map fun group => group.flatMap Statement.lines)

/-- Lines with their ends. -/
def endedLines (lines : List String) : String :=
  String.join (lines.map (· ++ "\n"))

section Lines

theorem endedLines_append (first second : List String) :
    endedLines (first ++ second) = endedLines first ++ endedLines second := by
  rw [endedLines, List.map_append, String.join_append]
  rfl

theorem endedLines_cons (line : String) (rest : List String) :
    endedLines (line :: rest) = line ++ "\n" ++ endedLines rest := by
  rw [endedLines, List.map_cons, String.join_cons]
  rfl

theorem itemTexts_eq_map (items : List Toml) : itemTexts items = items.map fun item => "\n    " ++ valueText item ++ "," := by
  induction items with
  | nil => rfl
  | cons item rest ih => rw [itemTexts, ih, List.map_cons]

/-- Breaks in front of the lines and one behind them are breaks behind the lines and one in front of them. -/
theorem break_endedLines (lines : List String) :
    "\n" ++ endedLines lines = String.join (lines.map ("\n" ++ ·)) ++ "\n" := by
  induction lines with
  | nil => rfl
  | cons line rest ih =>
      have hrest : String.join (rest.map ("\n" ++ ·)) ++ "\n" = "\n" ++ endedLines rest := ih.symm
      rw [endedLines_cons, List.map_cons, String.join_cons]
      simp only [String.append_assoc, hrest]

theorem exists_valueLines_eq_cons (v : Toml) : ∃ first rest, valueLines v = first :: rest := by
  unfold valueLines
  split
  · exact ⟨_, _, rfl⟩
  · exact ⟨_, _, rfl⟩

theorem endedLines_valueLines (v : Toml) : endedLines (valueLines v) = valueText v ++ "\n" := by
  unfold valueLines
  split
  · next first second rest =>
    generalize hitems : first :: second :: rest = items
    have htext : valueText (.array items) = "[" ++ String.join (itemTexts items) ++ "\n]" := by
      rw [← hitems, valueText]
      · intro h
        cases h
      · intro first h
        cases h
    have hitemLines := break_endedLines (items.map fun item => "    " ++ valueText item ++ ",")
    rw [List.map_map] at hitemLines
    have hmap : itemTexts items = items.map (("\n" ++ ·) ∘ fun item => "    " ++ valueText item ++ ",") := by
      rw [itemTexts_eq_map]
      refine List.map_congr_left fun item _ => ?_
      simp only [Function.comp_apply, ← String.append_assoc]
      rfl
    rw [← hmap] at hitemLines
    rw [htext, List.cons_append, endedLines_cons, endedLines_append]
    calc
      "[" ++ "\n" ++ (endedLines (items.map fun item => "    " ++ valueText item ++ ",") ++ endedLines ["]"])
        = "[" ++ (("\n" ++ endedLines (items.map fun item => "    " ++ valueText item ++ ",")) ++ "]\n") := by
          simp only [String.append_assoc]
          rfl
      _ = "[" ++ (String.join (itemTexts items) ++ "\n" ++ "]\n") := by rw [hitemLines]
      _ = "[" ++ String.join (itemTexts items) ++ "\n]" ++ "\n" := by
          simp only [String.append_assoc]
          rfl
  · rw [endedLines_cons, endedLines, List.map_nil, String.join_nil, String.append_empty]

theorem endedLines_binding (name : String) (v : Toml) :
    endedLines (Statement.binding [name] v).lines = nameText name ++ " = " ++ valueText v ++ "\n" := by
  obtain ⟨first, rest, hlines⟩ := exists_valueLines_eq_cons v
  have hvalue := endedLines_valueLines v
  rw [hlines, endedLines_cons] at hvalue
  rw [Statement.lines, hlines]
  simp only [endedLines_cons, pathText, List.map_cons, List.map_nil, String.intercalate_singleton]
  simp only [String.append_assoc] at hvalue ⊢
  rw [hvalue]

/-- The text of a group. -/
def groupText (group : List Statement) : String :=
  endedLines (group.flatMap Statement.lines)

theorem groupText_bindings (members : List (String × Toml)) :
    groupText (bindings members) = String.join (settingLines members) := by
  rw [bindings, settingLines]
  induction settings members with
  | nil => rfl
  | cons m rest ih =>
      rw [List.map_cons, List.map_cons, String.join_cons, groupText, List.flatMap_cons, endedLines_append,
        endedLines_binding, ← ih]
      rfl

theorem groupText_header (path : List String) (members : List (String × Toml)) :
    groupText (.header path :: bindings members) =
      "[" ++ ".".intercalate (path.map nameText) ++ "]\n" ++ String.join (settingLines members) := by
  rw [groupText, List.flatMap_cons, endedLines_append, ← groupText_bindings, Statement.lines, endedLines_cons]
  simp [groupText, pathText, endedLines, String.append_assoc]

theorem groupText_element (path : List String) (members : List (String × Toml)) :
    groupText (.element path :: bindings members) =
      "[[" ++ ".".intercalate (path.map nameText) ++ "]]\n" ++ String.join (settingLines members) := by
  rw [groupText, List.flatMap_cons, endedLines_append, ← groupText_bindings, Statement.lines, endedLines_cons]
  simp [groupText, pathText, endedLines, String.append_assoc]

/-- The text of a block. -/
def Block.text (b : Block) : String :=
  b.header ++ String.join b.lines

theorem groupText_tableGroups (path : List String) (members : List (String × Toml)) :
    (tableGroups path members).map groupText = (tableBlocks path members).map Block.text := by
  rw [tableGroups, tableBlocks]
  split
  · rfl
  · rw [List.map_singleton, List.map_singleton, groupText_header]
    rfl

mutual

theorem groupText_groups (path : List String) (members : List (String × Toml)) :
    (groups path members).map groupText = (blocks path members).map Block.text := by
  match members with
  | [] => rfl
  | (name, v) :: rest =>
      rw [groups, blocks, List.map_append, List.map_append, groupText_valueGroups, groupText_groups]

theorem groupText_valueGroups (path : List String) (v : Toml) :
    (valueGroups path v).map groupText = (valueBlocks path v).map Block.text := by
  match v with
  | .table members =>
      rw [valueGroups, valueBlocks, List.map_append, List.map_append, groupText_tableGroups, groupText_groups]
  | .array items =>
      rw [valueGroups, valueBlocks]
      split
      · exact groupText_elementGroups path items
      · rfl
  | .string _ | .integer _ | .double _ | .bool _ | .moment _ => rfl

theorem groupText_elementGroups (path : List String) (items : List Toml) :
    (elementGroups path items).map groupText = (elementBlocks path items).map Block.text := by
  match items with
  | [] => rfl
  | .table members :: rest =>
      rw [elementGroups, elementBlocks, List.map_append, List.map_append, List.map_cons, List.map_cons,
        groupText_element, groupText_groups, groupText_elementGroups]
      rfl
  | .array _ :: rest | .string _ :: rest | .integer _ :: rest | .double _ :: rest | .bool _ :: rest
  | .moment _ :: rest =>
      rw [elementGroups, elementBlocks]
      · exact groupText_elementGroups path rest
      · nofun
      · nofun

end

theorem endedLines_intercalate (parts : List (List String)) :
    endedLines ([""].intercalate parts) = "\n".intercalate (parts.map endedLines) := by
  induction parts with
  | nil => rfl
  | cons part rest ih =>
      cases rest with
      | nil => simp
      | cons second rest =>
          rw [List.intercalate_cons_cons, List.map_cons, List.map_cons, String.intercalate_cons_cons, ← List.map_cons,
            ← ih, endedLines_append, endedLines_append, endedLines_cons]
          simp [endedLines]

/-- A document consists of its lines. -/
theorem document_eq_endedLines (members : List (String × Toml)) :
    document members = endedLines (documentLines members) := by
  have hroot : (if (settings members).isEmpty then [] else [bindings members]).map groupText =
      if (settings members).isEmpty then [] else [String.join (settingLines members)] := by
    split
    · rfl
    · rw [List.map_singleton, groupText_bindings]
  rw [documentLines, endedLines_intercalate, List.map_map, documentGroups, List.map_append]
  change _ = "\n".intercalate (List.map groupText _ ++ List.map groupText _)
  rw [hroot, groupText_groups]
  rfl

end Lines

/-! ## Statements -/

/-- Whether a statement can be written: its path is not too long, and what is bound is a setting. -/
def Statement.Written : Statement → Prop
  | .binding path v => path ≠ [] ∧ path.length ≤ maxDepth ∧ Setting v
  | .header path | .element path => path ≠ [] ∧ path.length ≤ maxDepth

section Statements

variable {name : String} {path : List String} {cs tail rest : List Char}

theorem nameText_start (name : String) : ∃ c w, (nameText name).toList = c :: w ∧ IsStart c ∧ c ≠ '[' := by
  generalize htext : (nameText name).toList = text
  have h := nameForm_nameText name
  rw [htext] at h
  cases h with
  | bare hname hbare =>
      obtain ⟨c, w, hw⟩ := List.exists_cons_of_ne_nil hname
      have hc : isBare c = true := hbare c (hw ▸ List.mem_cons_self)
      refine ⟨c, w, hw, isStart_of_isBare hc, ?_⟩
      rintro rfl
      cases hc
  | quoted hquote _ =>
      refine ⟨_, _, rfl, hquote.isStart, ?_⟩
      rintro rfl
      exact absurd hquote (by decide)

theorem pathText_cons (name second : String) (more : List String) :
    (pathText (name :: second :: more)).toList = (nameText name).toList ++ '.' :: (pathText (second :: more)).toList := by
  simp [pathText, String.toList_append]

theorem pathText_start (hpath : path ≠ []) : ∃ c w, (pathText path).toList = c :: w ∧ IsStart c ∧ c ≠ '[' := by
  obtain ⟨name, more, rfl⟩ := List.exists_cons_of_ne_nil hpath
  obtain ⟨c, w, hw, hc⟩ := nameText_start name
  cases more with
  | nil => exact ⟨c, w, by simpa [pathText] using hw, hc⟩
  | cons second more =>
      rw [pathText_cons, hw]
      exact ⟨c, _, rfl, hc⟩

/-- The next name of a dotted key is read before what is behind it. -/
theorem key?_nameText (fuel : Nat) (hrest : ∀ c ∈ rest.head?, isBare c = false) :
    key? (fuel + 1) ((nameText name).toList ++ rest) =
      match skipSpace rest with
      | '.' :: rest => (key? fuel rest).bind fun (names, rest) => some (name :: names, rest)
      | rest => some ([name], rest) := by
  obtain ⟨c, w, hw, hc, -⟩ := nameText_start name
  have hskip : skipSpace ((nameText name).toList ++ rest) = (nameText name).toList ++ rest := by
    rw [hw, List.cons_append, skipSpace_of_isStart hc]
  rw [key?, hskip, (nameForm_nameText name).reads hrest]
  rfl

/-- A dotted key is read back as the path that it was written for. -/
theorem key?_pathText (hpath : path ≠ []) {fuel : Nat} (hfuel : path.length ≤ fuel)
    (hrest : ∀ c ∈ rest.head?, isBare c = false) (hdot : (skipSpace rest).head? ≠ some '.') :
    key? fuel ((pathText path).toList ++ rest) = some (path, skipSpace rest) := by
  obtain ⟨name, more, rfl⟩ := List.exists_cons_of_ne_nil hpath
  induction more generalizing name fuel with
  | nil =>
      obtain ⟨fuel, rfl⟩ := Nat.exists_eq_add_one.mpr (Nat.lt_of_lt_of_le (Nat.zero_lt_succ _) hfuel)
      have htext : (pathText [name]).toList = (nameText name).toList := by simp [pathText]
      rw [htext, key?_nameText fuel hrest]
      split
      · next heq => exact absurd (congrArg List.head? heq) hdot
      · rfl
  | cons second more ih =>
      obtain ⟨fuel, rfl⟩ := Nat.exists_eq_add_one.mpr (Nat.lt_of_lt_of_le (Nat.zero_lt_succ _) hfuel)
      have hbehind : ∀ c ∈ ('.' :: ((pathText (second :: more)).toList ++ rest)).head?, isBare c = false := by
        rintro c hc
        cases hc
        rfl
      have hskip : skipSpace ('.' :: ((pathText (second :: more)).toList ++ rest)) =
          '.' :: ((pathText (second :: more)).toList ++ rest) :=
        List.dropWhile_cons_of_neg (by decide)
      rw [pathText_cons, List.append_assoc, List.cons_append, key?_nameText fuel hbehind, hskip]
      simp only [ih second (List.cons_ne_nil _ _) (Nat.le_of_succ_le_succ hfuel), Option.bind_some]

/-- The front of a line can be taken by itself. -/
theorem Remarked.of_append {front line : String} {more : List String}
    (h : Remarked ((front ++ line) :: more) cs tail) :
    ∃ cs', cs = front.toList ++ cs' ∧ Remarked (line :: more) cs' tail := by
  cases h with
  | last _ tail => exact ⟨_, by rw [String.toList_append, List.append_assoc], .last line tail⟩
  | cons _ ht h => exact ⟨_, by rw [String.toList_append, List.append_assoc], .cons line ht h⟩

/-- The lines of a setting do not start with a blank. -/
theorem valueLines_start {v : Toml} (hv : Setting v) (h : Remarked (valueLines v) cs tail) :
    ∃ c w, cs = c :: w ∧ isSpace c = false := by
  have hfirst {line : String} {more : List String} (hlines : valueLines v = line :: more) {c : Char} {w : List Char}
      (hline : line.toList = c :: w) : ∃ w', cs = c :: w' := by
    rw [hlines] at h
    cases h with
    | last => exact ⟨_, by rw [hline, List.cons_append]⟩
    | cons => exact ⟨_, by rw [hline, List.cons_append]⟩
  cases hv with
  | string s =>
      obtain ⟨quote, w, htext, hquote⟩ := stringText_start s
      obtain ⟨w', hcs⟩ := hfirst rfl htext
      exact ⟨quote, w', hcs, hquote.isStart.space⟩
  | @size n hrange =>
      obtain ⟨c, ds, hds⟩ := List.exists_cons_of_ne_nil (Nat.toDigits_ne_nil (n := n) (b := 10))
      have hc : c.isDigit = true :=
        Nat.isDigit_of_mem_toDigits (n := n) (by decide) (by decide) (hds ▸ List.mem_cons_self)
      obtain ⟨w', hcs⟩ := hfirst rfl ((toList_valueText_size n).trans hds)
      exact ⟨c, w', hcs, (isStart_of_isBare (isBare_of_isDigit hc)).space⟩
  | bool b =>
      cases b with
      | false =>
          obtain ⟨w', hcs⟩ := hfirst rfl (c := 'f') (w := "alse".toList) (by rw [valueText]; rfl)
          exact ⟨'f', w', hcs, rfl⟩
      | true =>
          obtain ⟨w', hcs⟩ := hfirst rfl (c := 't') (w := "rue".toList) (by rw [valueText]; rfl)
          exact ⟨'t', w', hcs, rfl⟩
  | texts items =>
      rcases items with _ | ⟨first, _ | ⟨second, items⟩⟩
      · obtain ⟨w, hcs⟩ := hfirst valueLines_no_texts rfl
        exact ⟨'[', w, hcs, rfl⟩
      · have htext : ("[" ++ stringText first ++ "]").toList = '[' :: ((stringText first).toList ++ [']']) := by
          simp [String.toList_append]
        obtain ⟨w, hcs⟩ := hfirst (valueLines_text first) htext
        exact ⟨'[', w, hcs, rfl⟩
      · obtain ⟨w, hcs⟩ := hfirst (valueLines_texts first second items) rfl
        exact ⟨'[', w, hcs, rfl⟩

theorem statement?_of_ne {c : Char} (hc : c ≠ '[') (cs : List Char) :
    statement? (c :: cs) = (key? maxDepth (c :: cs)).bind fun (path, rest) =>
      match rest with
      | '=' :: rest => (value? (rest.length + 1) maxDepth (skipSpace rest)).bind fun (v, rest) =>
          some (.binding path v, rest)
      | _ => none := by
  unfold statement?
  split
  · next heq => exact absurd (List.cons.inj heq).1 hc
  · next heq => exact absurd (List.cons.inj heq).1 hc
  · rfl

theorem statement?_header {c : Char} (hc : c ≠ '[') (cs : List Char) :
    statement? ('[' :: c :: cs) = (key? maxDepth (c :: cs)).bind fun (path, rest) =>
      match rest with
      | ']' :: rest => some (.header path, rest)
      | _ => none := by
  unfold statement?
  split
  · next heq => exact absurd (List.cons.inj (List.cons.inj heq).2).1 hc
  · next heq =>
      cases heq
      rfl
  · next h => exact absurd rfl (h _)

/-- A path on a line is read up to the next character that is no blank. -/
theorem key?_of_line (hpath : path ≠ []) (hlength : path.length ≤ maxDepth) {c d : Char} {more : List Char}
    (hc : isBare c = false) (hskip : skipSpace (c :: rest) = d :: more) (hd : d ≠ '.') :
    key? maxDepth ((pathText path).toList ++ c :: rest) = some (path, d :: more) := by
  have hbare : ∀ e ∈ (c :: rest).head?, isBare e = false := by
    rintro e he
    cases he
    exact hc
  have hdot : (skipSpace (c :: rest)).head? ≠ some '.' := by
    rw [hskip]
    exact fun h => hd (Option.some.inj h)
  rw [key?_pathText hpath hlength hbare hdot, hskip]

/-- The value of a binding begins behind a blank. -/
theorem statement?_binding (hpath : path ≠ []) (hlength : path.length ≤ maxDepth) {v : Toml} (hv : Setting v)
    (h : Remarked (Statement.binding path v).lines cs tail) (hends : LineEnds tail rest) :
    statement? cs = some (.binding path v, tail) ∧ ∃ c w, cs = c :: w ∧ IsStart c := by
  obtain ⟨first, more, hlines⟩ := exists_valueLines_eq_cons v
  rw [Statement.lines, hlines] at h
  obtain ⟨cs', rfl, hvalueLines⟩ := h.of_append
  rw [← hlines] at hvalueLines
  obtain ⟨d, w, rfl, hd⟩ := valueLines_start hv hvalueLines
  have hskip : skipSpace (' ' :: d :: w) = d :: w := by
    rw [skipSpace, List.dropWhile_cons_of_pos (by decide), List.dropWhile_cons_of_neg (by simp [hd])]
  have hvalue : value? ((' ' :: d :: w).length + 1) maxDepth (d :: w) = some (v, tail) :=
    value?_of_setting hv hvalueLines hends (by simp) (maxDepth - 1)
  have hkey : key? maxDepth ((pathText path).toList ++ ' ' :: '=' :: ' ' :: d :: w) = some (path, '=' :: ' ' :: d :: w) :=
    key?_of_line hpath hlength (by decide) rfl (by decide)
  have hcs : (pathText path ++ " = ").toList ++ d :: w = (pathText path).toList ++ ' ' :: '=' :: ' ' :: d :: w := by
    simp [String.toList_append]
  obtain ⟨c, w', hw, hc, hbracket⟩ := pathText_start hpath
  rw [hcs]
  rw [hw, List.cons_append] at hkey ⊢
  refine ⟨?_, c, _, rfl, hc⟩
  rw [statement?_of_ne hbracket, hkey]
  simp only [Option.bind_some, hskip, hvalue]

theorem statement?_of_header (hpath : path ≠ []) (hlength : path.length ≤ maxDepth) (tail : List Char) :
    statement? ('[' :: ((pathText path).toList ++ ']' :: tail)) = some (.header path, tail) := by
  have hkey : key? maxDepth ((pathText path).toList ++ ']' :: tail) = some (path, ']' :: tail) :=
    key?_of_line hpath hlength (by decide) rfl (by decide)
  obtain ⟨c, w, hw, -, hbracket⟩ := pathText_start hpath
  rw [hw, List.cons_append] at hkey ⊢
  rw [statement?_header hbracket, hkey]
  rfl

theorem statement?_of_element (hpath : path ≠ []) (hlength : path.length ≤ maxDepth) (tail : List Char) :
    statement? ('[' :: '[' :: ((pathText path).toList ++ ']' :: ']' :: tail)) = some (.element path, tail) := by
  have hkey : key? maxDepth ((pathText path).toList ++ ']' :: ']' :: tail) = some (path, ']' :: ']' :: tail) :=
    key?_of_line hpath hlength (by decide) rfl (by decide)
  rw [statement?, hkey]
  rfl

/-- A statement is read back up to the end of its last line. -/
theorem Statement.Written.reads {st : Statement} (hst : st.Written) (h : Remarked st.lines cs tail)
    (hends : LineEnds tail rest) : statement? cs = some (st, tail) ∧ ∃ c w, cs = c :: w ∧ IsStart c := by
  have hbracket : IsStart '[' := ⟨by decide, by decide, by decide⟩
  cases st with
  | binding path v =>
      obtain ⟨hpath, hlength, hv⟩ := hst
      exact statement?_binding hpath hlength hv h hends
  | header path =>
      have hcs : cs = '[' :: ((pathText path).toList ++ ']' :: tail) := by
        rw [h.singleton]
        simp [String.toList_append]
      rw [hcs]
      exact ⟨statement?_of_header hst.1 hst.2 tail, '[', _, rfl, hbracket⟩
  | element path =>
      have hcs : cs = '[' :: '[' :: ((pathText path).toList ++ ']' :: ']' :: tail) := by
        rw [h.singleton]
        simp [String.toList_append]
      rw [hcs]
      exact ⟨statement?_of_element hst.1 hst.2 tail, '[', _, rfl, hbracket⟩

end Statements

mutual

/-- The texts of a value. -/
def texts : Toml → List String
  | string s => [s]
  | array items => itemsTexts items
  | table members => membersTexts members
  | _ => []

def itemsTexts : List Toml → List String
  | [] => []
  | item :: rest => item.texts ++ itemsTexts rest

def membersTexts : List (String × Toml) → List String
  | [] => []
  | (_, v) :: rest => v.texts ++ membersTexts rest

end

/-- The texts of what a statement binds. -/
def Statement.texts : Statement → List String
  | .binding _ v => v.texts
  | .header _ | .element _ => []

section Groups

variable {path : List String} {depth : Nat} {group : List Statement} {statement : Statement}
  {members : List (String × Toml)}

theorem itemsTexts_map (items : List String) : itemsTexts (items.map .string) = items := by
  induction items with
  | nil => rfl
  | cons s rest ih =>
      rw [List.map_cons, itemsTexts, ih, texts]
      rfl

theorem mem_membersTexts {m : String × Toml} (hm : m ∈ members) {s : String} (hs : s ∈ m.2.texts) :
    s ∈ membersTexts members := by
  induction members with
  | nil => cases hm
  | cons first rest ih =>
      rw [membersTexts]
      rcases List.mem_cons.mp hm with rfl | hm
      · exact List.mem_append_left _ hs
      · exact List.mem_append_right _ (ih hm)

theorem mem_itemsTexts {tables : List (List (String × Toml))} (hmembers : members ∈ tables) {s : String}
    (hs : s ∈ membersTexts members) : s ∈ itemsTexts (tables.map Toml.table) := by
  induction tables with
  | nil => cases hmembers
  | cons first rest ih =>
      rw [List.map_cons, itemsTexts, texts]
      rcases List.mem_cons.mp hmembers with rfl | hmembers
      · exact List.mem_append_left _ hs
      · exact List.mem_append_right _ (ih hmembers)

theorem groups_eq_flatMap (path : List String) (members : List (String × Toml)) :
    groups path members = members.flatMap fun m => valueGroups (path ++ [m.1]) m.2 := by
  induction members with
  | nil => rfl
  | cons m rest ih => rw [groups, ih, List.flatMap_cons]

theorem elementGroups_eq_flatMap (path : List String) (tables : List (List (String × Toml))) :
    elementGroups path (tables.map Toml.table) =
      tables.flatMap fun members => (.element path :: bindings members) :: groups path members := by
  induction tables with
  | nil => rfl
  | cons members rest ih => rw [List.map_cons, elementGroups, ih, List.flatMap_cons]

/-- A statement that can be written and binds no other texts than the given ones. -/
structure Statement.WrittenFor (texts : List String) (statement : Statement) : Prop where
  written : statement.Written
  texts : ∀ s ∈ statement.texts, s ∈ texts

theorem Statement.Written.writtenFor_of_no_texts {texts : List String} (h : statement.Written)
    (htexts : statement.texts = []) : statement.WrittenFor texts := by
  refine ⟨h, fun s hs => ?_⟩
  rw [htexts] at hs
  cases hs

theorem Statement.WrittenFor.mono {some more : List String} (h : statement.WrittenFor some)
    (hsubset : ∀ s ∈ some, s ∈ more) : statement.WrittenFor more :=
  ⟨h.written, fun s hs => hsubset s (h.texts s hs)⟩

theorem writtenFor_of_mem_bindings (hmembers : ∀ m ∈ members, Writable depth m.2) (h : statement ∈ bindings members) :
    statement.WrittenFor (membersTexts members) := by
  obtain ⟨m, hm, rfl⟩ := List.mem_map.mp h
  obtain ⟨hmem, hsetting⟩ := List.mem_filter.mp hm
  constructor
  · exact ⟨List.cons_ne_nil _ _, Nat.le_of_ble_eq_true rfl, setting_of_writable (hmembers m hmem) (by simpa using hsetting)⟩
  · exact fun s hs => mem_membersTexts hmem hs

/-- Every statement about a value can be written, if tables are not nested too deep. -/
theorem writtenFor_of_mem_valueGroups {v : Toml} (h : Writable depth v) (hpath : path ≠ [])
    (hdepth : path.length + depth ≤ maxDepth + 1) (hgroup : group ∈ valueGroups path v) (hst : statement ∈ group) :
    statement.WrittenFor v.texts := by
  induction h generalizing path group with
  | setting h =>
      rw [valueGroups_eq_nil (hasHeader_of_setting h)] at hgroup
      cases hgroup
  | @table depth members _ hmembers ih =>
      rw [texts]
      rw [valueGroups] at hgroup
      rcases List.mem_append.mp hgroup with hgroup | hgroup
      · rw [tableGroups] at hgroup
        split at hgroup
        · cases hgroup
        · rw [List.mem_singleton.mp hgroup] at hst
          rcases List.mem_cons.mp hst with rfl | hst
          · exact Statement.Written.writtenFor_of_no_texts ⟨hpath, by omega⟩ rfl
          · exact writtenFor_of_mem_bindings hmembers hst
      · rw [groups_eq_flatMap] at hgroup
        obtain ⟨m, hm, hgroup⟩ := List.mem_flatMap.mp hgroup
        have hbelow : (path ++ [m.1]).length + depth ≤ maxDepth + 1 := by
          rw [List.length_append, List.length_singleton]
          omega
        exact (ih m hm (by simp) hbelow hgroup hst).mono fun s => mem_membersTexts hm
  | @tables depth first rest _ hmembers ih =>
      rw [texts]
      rw [valueGroups, tablesOf_map, Option.isSome_some, if_pos rfl, elementGroups_eq_flatMap] at hgroup
      obtain ⟨members, htable, hgroup⟩ := List.mem_flatMap.mp hgroup
      rcases List.mem_cons.mp hgroup with rfl | hgroup
      · rcases List.mem_cons.mp hst with rfl | hst
        · exact Statement.Written.writtenFor_of_no_texts ⟨hpath, by omega⟩ rfl
        · exact (writtenFor_of_mem_bindings (hmembers members htable) hst).mono fun s => mem_itemsTexts htable
      · rw [groups_eq_flatMap] at hgroup
        obtain ⟨m, hm, hgroup⟩ := List.mem_flatMap.mp hgroup
        have hbelow : (path ++ [m.1]).length + depth ≤ maxDepth + 1 := by
          rw [List.length_append, List.length_singleton]
          omega
        exact (ih members htable m hm (by simp) hbelow hgroup hst).mono fun s hs =>
          mem_itemsTexts htable (mem_membersTexts hm hs)

theorem writtenFor_of_mem_documentGroups (hmembers : ∀ m ∈ members, Writable depth m.2) (hdepth : depth ≤ maxDepth)
    (hgroup : group ∈ documentGroups members) (hst : statement ∈ group) :
    statement.WrittenFor (membersTexts members) := by
  rw [documentGroups] at hgroup
  rcases List.mem_append.mp hgroup with hgroup | hgroup
  · split at hgroup
    · cases hgroup
    · rw [List.mem_singleton.mp hgroup] at hst
      exact writtenFor_of_mem_bindings hmembers hst
  · rw [groups_eq_flatMap] at hgroup
    obtain ⟨m, hm, hgroup⟩ := List.mem_flatMap.mp hgroup
    have hbelow : [m.1].length + depth ≤ maxDepth + 1 := by
      rw [List.length_singleton]
      omega
    exact (writtenFor_of_mem_valueGroups (hmembers m hm) (by simp) hbelow hgroup hst).mono fun s => mem_membersTexts hm

end Groups

/-! ## Documents -/

/-- A draft grows to another one by reading some lines. -/
def Parses (d : Draft) (cs : List Char) (d' : Draft) : Prop :=
  ∀ fuel, cs.length < fuel → lines? fuel d cs = some d'

section Documents

variable {d d₁ d' : Draft} {cs tail rest : List Char}

theorem Parses.nil (d : Draft) : Parses d [] d := by
  intro fuel hfuel
  obtain ⟨fuel, rfl⟩ := Nat.exists_eq_add_one.mpr hfuel
  rfl

/-- What lines say does not depend on blanks and breaks in front of them. -/
theorem Parses.of_skipLines (h : Parses d rest d') (hskip : skipLines cs = skipLines rest)
    (hlength : rest.length ≤ cs.length) : Parses d cs d' := by
  intro fuel hfuel
  obtain ⟨fuel, rfl⟩ := Nat.exists_eq_add_one.mpr (Nat.zero_lt_of_lt hfuel)
  have hread := h (fuel + 1) (Nat.lt_of_le_of_lt hlength hfuel)
  rw [lines?, ← hskip] at hread
  rwa [lines?]

theorem Parses.lineBreak (h : Parses d rest d') : Parses d ('\n' :: rest) d' :=
  h.of_skipLines rfl (Nat.le_succ _)

theorem Parses.space (h : Parses d rest d') : Parses d (' ' :: rest) d' :=
  h.of_skipLines rfl (Nat.le_succ _)

/-- A comment says nothing. -/
theorem Parses.comment {comment : List Char} (hcomment : ∀ c ∈ comment, isPlain c = true) (h : Parses d rest d') :
    Parses d ('#' :: (comment ++ '\n' :: rest)) d' := by
  intro fuel hfuel
  obtain ⟨fuel, rfl⟩ := Nat.exists_eq_add_one.mpr (Nat.zero_lt_of_lt hfuel)
  have hends : lineEnd? (' ' :: ' ' :: '#' :: (comment ++ '\n' :: rest)) = some rest :=
    LineEnds.lineEnd?_eq ⟨_, .inr ⟨comment, rfl, hcomment⟩, rfl⟩
  have hend : lineEnd? ('#' :: (comment ++ '\n' :: rest)) = some rest := hends
  have hskip : skipLines ('#' :: (comment ++ '\n' :: rest)) = '#' :: (comment ++ '\n' :: rest) := rfl
  rw [lines?, hskip]
  simp only [hend]
  refine h fuel ?_
  rw [List.length_cons, List.length_append, List.length_cons] at hfuel
  omega

/-- A line that is empty but for a remark says nothing. -/
theorem Parses.remark {t : List Char} (ht : Remark t) (h : Parses d rest d') : Parses d (t ++ '\n' :: rest) d' := by
  rcases ht with rfl | ⟨comment, rfl, hplain⟩
  · exact h.lineBreak
  · exact (h.comment hplain).space.space

/-- A statement is added to the draft. -/
theorem Parses.statement {st : Statement} (hst : st.Written) (h : Remarked st.lines cs tail) (hends : LineEnds tail rest)
    (hadd : d.add st = some d₁) (hrest : Parses d₁ rest d') (hlength : rest.length < cs.length) : Parses d cs d' := by
  intro fuel hfuel
  obtain ⟨fuel, rfl⟩ := Nat.exists_eq_add_one.mpr (Nat.zero_lt_of_lt hfuel)
  obtain ⟨hread, c, w, rfl, hc⟩ := hst.reads h hends
  have hnext : lines? fuel d₁ rest = some d' := hrest fuel (by omega)
  rw [lines?, skipLines_of_isStart hc]
  split
  · next heq => cases heq
  · next heq => exact absurd (List.cons.inj heq).1 hc.comment
  · simp only [hread, hends.lineEnd?_eq, hadd, hnext]

theorem Remarked.length_tail_le {lines : List String} (h : Remarked lines cs tail) : tail.length ≤ cs.length := by
  induction h with
  | last => simp
  | cons _ _ _ ih =>
      simp only [List.length_append, List.length_cons]
      omega

theorem LineEnds.length_lt (h : LineEnds tail rest) : rest.length < tail.length := by
  obtain ⟨t, -, rfl⟩ := h
  simp only [List.length_append, List.length_cons]
  omega

theorem exists_lines_eq_cons (st : Statement) : ∃ first more, st.lines = first :: more := by
  cases st with
  | binding path v =>
      obtain ⟨first, more, hlines⟩ := exists_valueLines_eq_cons v
      exact ⟨_, more, by rw [Statement.lines, hlines]⟩
  | header path => exact ⟨_, [], rfl⟩
  | element path => exact ⟨_, [], rfl⟩

/-- The statements of a group are added one by one, in front of more lines. -/
theorem parses_group {group : List Statement} {more : List String} (hgroup : ∀ st ∈ group, st.Written)
    (h : AllRemarked (group.flatMap Statement.lines ++ more) cs) (hrun : run group d = some d₁)
    (hmore : ∀ rest, AllRemarked more rest → Parses d₁ rest d') : Parses d cs d' := by
  induction group generalizing d cs with
  | nil =>
      cases hrun
      exact hmore cs h
  | cons st group ih =>
      obtain ⟨hst, hgroup⟩ := List.forall_mem_cons.mp hgroup
      obtain ⟨next, hadd, hrun⟩ := Option.bind_eq_some_iff.mp ((run_cons st group d).symm.trans hrun)
      obtain ⟨first, others, hlines⟩ := exists_lines_eq_cons st
      rw [List.flatMap_cons, List.append_assoc, hlines] at h
      obtain ⟨tail, rest, hfirst, hends, hrest⟩ := h.split
      rw [← hlines] at hfirst
      exact .statement hst hfirst hends hadd (ih hgroup hrest hrun)
        (Nat.lt_of_lt_of_le hends.length_lt hfirst.length_tail_le)

/-- The statements of all groups are added one by one. -/
theorem parses_groups {groups : List (List Statement)} (hgroups : ∀ group ∈ groups, ∀ st ∈ group, st.Written)
    (h : AllRemarked ([""].intercalate (groups.map fun group => group.flatMap Statement.lines)) cs)
    (hrun : run groups.flatten d = some d') : Parses d cs d' := by
  induction groups generalizing d cs with
  | nil =>
      cases h
      cases hrun
      exact .nil _
  | cons group others ih =>
      obtain ⟨hgroup, hothers⟩ := List.forall_mem_cons.mp hgroups
      rw [List.flatten_cons, run_append] at hrun
      obtain ⟨next, hfirst, hrest⟩ := Option.bind_eq_some_iff.mp hrun
      cases others with
      | nil =>
          cases hrest
          rw [List.map_singleton, List.intercalate_singleton, ← List.append_nil (group.flatMap Statement.lines)] at h
          refine parses_group hgroup h hfirst fun rest hlines => ?_
          cases hlines
          exact .nil _
      | cons second others =>
          rw [List.map_cons, List.map_cons, List.intercalate_cons_cons, List.append_assoc] at h
          refine parses_group hgroup h hfirst fun rest hlines => ?_
          cases hlines with
          | cons line ht hlines =>
              exact (ih hothers hlines hrest).remark ht

/-- A written document is read as the document in order, whatever remarks are at the ends of its lines. -/
theorem parses_document {members : List (String × Toml)} {depth : Nat} (hmembers : ∀ m ∈ members, Writable depth m.2)
    (hdepth : depth ≤ maxDepth) (hnames : (members.map Prod.fst).Nodup) (h : AllRemarked (documentLines members) cs) :
    ∃ d, Parses {} cs d ∧ d.toml = (Toml.table members).sorted := by
  obtain ⟨d, hrun, htoml⟩ := run_document hmembers hnames
  refine ⟨d, parses_groups (fun group hgroup st hst => ?_) h hrun, htoml⟩
  exact (writtenFor_of_mem_documentGroups hmembers hdepth hgroup hst).written

end Documents

end AccessControl.Toml
