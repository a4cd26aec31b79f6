import CommandLine.LogSearch.Search
import CommandLine.Proofs.ByteLines

/-!
# Size limits

A limit on the bytes that are read of an input may fall inside of a line, which is then searched as
far as it is read. If it falls inside of a character, the last line is malformed although the input
is not, and the search ends there.
-/

namespace CommandLine

/-! ### Bytes up to a limit -/

namespace Text

/-- The characters at the beginning of a text that fit into a number of bytes. -/
def fitting : Nat → List Char → List Char
  | _, [] => []
  | limit, c :: rest => if c.utf8Size ≤ limit then c :: fitting (limit - c.utf8Size) rest else []

/-- The limit falls inside of a character of the text. -/
def Splits (limit : Nat) (text : List Char) : Prop :=
  ∃ front c rest, text = front ++ c :: rest ∧ (bytesOf front).length < limit ∧
    limit < (bytesOf front).length + c.utf8Size

variable {limit : Nat} {c : Char} {text rest : List Char}

@[simp] lemma not_splits_nil : ¬ Splits limit [] := by
  rintro ⟨front, c, rest, h, -⟩
  simp at h

lemma splits_cons_iff :
    Splits limit (c :: rest) ↔
      if c.utf8Size ≤ limit then Splits (limit - c.utf8Size) rest else 0 < limit := by
  have hlength (front : List Char) :
      (bytesOf (c :: front)).length = c.utf8Size + (bytesOf front).length := by
    rw [bytesOf_cons, List.length_append, String.length_utf8EncodeChar]
  split_ifs with hfits
  · constructor
    · rintro ⟨front, d, later, h, hlow, hhigh⟩
      cases front with
      | nil =>
        obtain ⟨rfl, rfl⟩ := List.cons.inj h
        exact absurd hhigh (by simpa using hfits)
      | cons first front =>
        obtain ⟨rfl, rfl⟩ := List.cons.inj h
        rw [hlength] at hlow hhigh
        exact ⟨front, d, later, rfl, by omega, by omega⟩
    · rintro ⟨front, d, later, rfl, hlow, hhigh⟩
      refine ⟨c :: front, d, later, rfl, ?_, ?_⟩
      · rw [hlength]
        omega
      · rw [hlength]
        omega
  · constructor
    · rintro ⟨front, d, later, h, hlow, hhigh⟩
      omega
    · intro hpos
      exact ⟨[], c, rest, rfl, hpos, by simpa using hfits⟩

lemma take_bytesOf_cons (hfits : c.utf8Size ≤ limit) :
    (bytesOf (c :: rest)).take limit =
      String.utf8EncodeChar c ++ (bytesOf rest).take (limit - c.utf8Size) := by
  have hlength : (String.utf8EncodeChar c).length = c.utf8Size := String.length_utf8EncodeChar c
  rw [bytesOf_cons, List.take_append, List.take_of_length_le (by omega), hlength]

/-- A limit between two characters leaves those that fit. -/
lemma take_bytesOf_of_not_splits (h : ¬ Splits limit text) :
    (bytesOf text).take limit = bytesOf (fitting limit text) := by
  induction text generalizing limit with
  | nil => simp [fitting]
  | cons c rest ih =>
    rw [splits_cons_iff] at h
    rw [fitting]
    split_ifs at h ⊢ with hfits
    · rw [take_bytesOf_cons hfits, ih h, bytesOf_cons]
    · obtain rfl : limit = 0 := by omega
      rfl

/-- A limit inside of a character leaves those that fit and a part of the next one. -/
lemma exists_take_bytesOf_of_splits (h : Splits limit text) :
    ∃ (c : Char) (count : Nat), 0 < count ∧ count < (String.utf8EncodeChar c).length ∧
      (bytesOf text).take limit =
        bytesOf (fitting limit text) ++ (String.utf8EncodeChar c).take count := by
  induction text generalizing limit with
  | nil => exact absurd h not_splits_nil
  | cons c rest ih =>
    rw [splits_cons_iff] at h
    rw [fitting]
    split_ifs at h ⊢ with hfits
    · obtain ⟨d, count, hpos, hcount, htake⟩ := ih h
      refine ⟨d, count, hpos, hcount, ?_⟩
      rw [take_bytesOf_cons hfits, htake, bytesOf_cons, List.append_assoc]
    · have hcount : limit < (String.utf8EncodeChar c).length := by
        rw [String.length_utf8EncodeChar]
        omega
      refine ⟨c, limit, h, hcount, ?_⟩
      rw [bytesOf_cons, List.take_append_of_le_length hcount.le, bytesOf_nil, List.nil_append]

end Text

namespace LogSearch

variable {arguments : Arguments}

/-! ### Numbered lines -/

/-- What a search writes for lines that are numbered from the given number on. -/
def foundFrom (arguments : Arguments) (name : String) (number : Nat) (lines : List (List Char)) :
    String :=
  String.join (((lines.zipIdx number).filter fun numbered => isMatch arguments numbered.1).map
    fun numbered => written arguments name numbered.2 numbered.1)

lemma foundFrom_cons (name : String) (number : Nat) (line : List Char)
    (lines : List (List Char)) :
    foundFrom arguments name number (line :: lines) =
      (if isMatch arguments line then written arguments name number line else "") ++
        foundFrom arguments name (number + 1) lines := by
  rw [foundFrom, List.zipIdx_cons, List.filter_cons]
  split_ifs
  · rw [List.map_cons, String.join_cons, foundFrom]
  · rw [String.empty_append, foundFrom]

/-- Lines that are texts are searched one by one. -/
lemma searchLines_map_bytesOf_append (arguments : Arguments) (name : String) (number : Nat)
    (lines : List (List Char)) (rest : List (List UInt8)) :
    searchLines arguments name number (lines.map Text.bytesOf ++ rest) =
      Findings.andThen ⟨foundFrom arguments name number lines, none⟩
        (searchLines arguments name (number + lines.length) rest) := by
  induction lines generalizing number with
  | nil => simp [foundFrom, Findings.andThen]
  | cons line lines ih =>
    rw [List.map_cons, List.cons_append, searchLines, Text.decode?_bytesOf]
    simp only [Findings.andThen, String.toList_ofList]
    rw [ih, foundFrom_cons, List.length_cons, String.append_assoc, Nat.add_right_comm,
      Nat.add_assoc]
    rfl

/-! ### Inputs that are texts -/

/-- An input that holds a text. -/
structure Document where
  name : String
  text : String

def Document.source (document : Document) : Source :=
  ⟨document.name, some (Text.encode document.text)⟩

namespace Arguments

/-- The characters of a text that fit into the limit. -/
def portion (arguments : Arguments) (text : String) : List Char :=
  match arguments.limit with
  | some limit => Text.fitting limit text.toList
  | none => text.toList

def Splits (arguments : Arguments) (text : String) : Prop :=
  ∃ limit, arguments.limit = some limit ∧ Text.Splits limit text.toList

/-- The inputs, if the standard input and all files are texts. -/
def documents (arguments : Arguments) (input : String) (text : String → String) : List Document :=
  if arguments.files = [] then [⟨"<stdin>", input⟩]
  else arguments.files.map fun name => ⟨name, text name⟩

end Arguments

/-- What is found in the lines that are read of a document. -/
def found (arguments : Arguments) (document : Document) : String :=
  foundFrom arguments document.name 1
    (Text.brokenLines '\n' '\r' (arguments.portion document.text))

/-- What is found in those lines that are read of a document with their line feed. -/
def foundEnded (arguments : Arguments) (document : Document) : String :=
  foundFrom arguments document.name 1 (Text.endedLines (arguments.portion document.text))

variable {document : Document}

lemma limited_encode (h : ¬ arguments.Splits document.text) :
    limited arguments (Text.encode document.text) =
      Text.bytesOf (arguments.portion document.text) := by
  rw [limited, Arguments.portion, Text.encode_eq]
  cases hlimit : arguments.limit with
  | none => rfl
  | some limit => exact Text.take_bytesOf_of_not_splits fun hsplits => h ⟨limit, hlimit, hsplits⟩

lemma searchSource_of_not_splits (h : ¬ arguments.Splits document.text) :
    searchSource arguments document.source = ⟨found arguments document, none⟩ := by
  have hlines := searchLines_map_bytesOf_append arguments document.name 1
    (Text.brokenLines '\n' '\r' (arguments.portion document.text)) []
  rw [List.append_nil] at hlines
  simp only [searchSource, Document.source, limited_encode h, Text.brokenLines_bytesOf, hlines]
  simp only [searchLines, Findings.andThen, Findings.none, String.append_empty, found]

/-- The part of a character ends the search, and its line is not searched. -/
lemma searchSource_of_splits (h : arguments.Splits document.text) :
    searchSource arguments document.source =
      ⟨foundEnded arguments document, some (.malformed document.name)⟩ := by
  obtain ⟨limit, hlimit, hsplits⟩ := h
  obtain ⟨c, count, hpos, hcount, htake⟩ := Text.exists_take_bytesOf_of_splits hsplits
  set part : List UInt8 := (String.utf8EncodeChar c).take count with hpart
  have hne : part ≠ [] := by
    rw [hpart, Ne, List.take_eq_nil_iff]
    simp only [String.utf8EncodeChar_ne_nil, or_false]
    omega
  -- The line feed is a single byte, so no part of it is missing.
  have hfeed : 10 ∉ part := by
    intro hmem
    obtain rfl := Text.feed_mem_utf8EncodeChar_iff.mp (List.mem_of_mem_take hmem)
    have hlength : (String.utf8EncodeChar '\n').length = 1 := rfl
    omega
  have hportion : arguments.portion document.text = Text.fitting limit document.text.toList := by
    rw [Arguments.portion, hlimit]
  have hlimited : limited arguments (Text.encode document.text) =
      Text.bytesOf (arguments.portion document.text) ++ part := by
    rw [limited, hlimit, Text.encode_eq, hportion]
    exact htake
  obtain ⟨last, hlines⟩ :=
    Text.brokenLines_bytesOf_append hne hfeed (arguments.portion document.text)
  have hbroken : Text.decode? (Text.bytesOf last ++ part) = none :=
    Text.decode?_append_take last hpos hcount
  simp only [searchSource, Document.source, hlimited, hlines, searchLines_map_bytesOf_append,
    searchLines, hbroken, Findings.andThen, String.append_empty, foundEnded]

/-! ### Runs -/

lemma sources_eq_map_source {input : String} {file : String → Option (List UInt8)}
    {text : String → String}
    (hfile : ∀ name ∈ arguments.files, file name = some (Text.encode (text name))) :
    sources arguments (Text.encode input) file =
      (arguments.documents input text).map Document.source := by
  rw [sources, Arguments.documents]
  split_ifs
  · rfl
  · rw [List.map_map]
    exact List.map_congr_left fun name hname => congrArg (Source.mk name) (hfile name hname)

/-- Inputs without faults are searched one after the other. -/
lemma searchAll_map_source_append {documents : List Document}
    (h : ∀ document ∈ documents, ¬ arguments.Splits document.text) (rest : List Source) :
    searchAll arguments (documents.map Document.source ++ rest) =
      Findings.andThen ⟨String.join (documents.map (found arguments)), none⟩
        (searchAll arguments rest) := by
  induction documents with
  | nil => simp [Findings.andThen]
  | cons document documents ih =>
    obtain ⟨hdocument, hdocuments⟩ := List.forall_mem_cons.mp h
    have hcons : searchAll arguments ((document :: documents).map Document.source ++ rest) =
        (searchSource arguments document.source).andThen
          (searchAll arguments (documents.map Document.source ++ rest)) := rfl
    rw [hcons, searchSource_of_not_splits hdocument, ih hdocuments]
    simp only [Findings.andThen, List.map_cons, String.join_cons, String.append_assoc]

lemma exit_of_forall_not_splits {documents : List Document}
    (h : ∀ document ∈ documents, ¬ arguments.Splits document.text) :
    (searchAll arguments (documents.map Document.source)).exit =
      ⟨0, String.join (documents.map (found arguments)), ""⟩ := by
  have hall := searchAll_map_source_append h []
  rw [List.append_nil] at hall
  rw [hall]
  simp [searchAll, Findings.andThen, Findings.none, Findings.exit]

/-- Nothing is searched after the first input that the limit splits. -/
lemma exit_of_splits {before after : List Document}
    (hbefore : ∀ document ∈ before, ¬ arguments.Splits document.text)
    (h : arguments.Splits document.text) :
    (searchAll arguments ((before ++ document :: after).map Document.source)).exit =
      ⟨1, String.join (before.map (found arguments)) ++ foundEnded arguments document,
        (SearchFault.malformed document.name).message⟩ := by
  have hcons : searchAll arguments ((document :: after).map Document.source) =
      (searchSource arguments document.source).andThen
        (searchAll arguments (after.map Document.source)) := rfl
  rw [List.map_append, searchAll_map_source_append hbefore, hcons, searchSource_of_splits h]
  rfl

lemma exists_first_splits {documents : List Document}
    (h : ∃ document ∈ documents, arguments.Splits document.text) :
    ∃ before document after, documents = before ++ document :: after ∧
      (∀ document ∈ before, ¬ arguments.Splits document.text) ∧
      arguments.Splits document.text := by
  induction documents with
  | nil => simp at h
  | cons first documents ih =>
    by_cases hfirst : arguments.Splits first.text
    · exact ⟨[], first, documents, rfl, by simp, hfirst⟩
    · obtain ⟨before, document, after, rfl, hbefore, hsplits⟩ := ih (by simpa [hfirst] using h)
      exact ⟨first :: before, document, after, rfl, List.forall_mem_cons.mpr ⟨hfirst, hbefore⟩,
        hsplits⟩

/-- Inputs that are texts are searched in all lines that are read of them, also in a last one that
is cut short, exactly if the limit falls inside of no character of theirs. The first input with such
a character is searched in the lines that are ended, and then fails as malformed, and the inputs
after it are not searched. -/
theorem limit_inside_character (arguments : Arguments) (input : String)
    (file : String → Option (List UInt8)) (text : String → String)
    (hfile : ∀ name ∈ arguments.files, file name = some (Text.encode (text name))) :
    let documents := arguments.documents input text
    let exit := (searchAll arguments (sources arguments (Text.encode input) file)).exit
    (∀ document : Document, ¬ arguments.Splits document.text →
        searchSource arguments document.source = ⟨found arguments document, none⟩) ∧
      (∀ document : Document, arguments.Splits document.text →
        searchSource arguments document.source =
          ⟨foundEnded arguments document, some (.malformed document.name)⟩) ∧
      (exit.code = 0 ↔ ∀ document ∈ documents, ¬ arguments.Splits document.text) ∧
      ((∀ document ∈ documents, ¬ arguments.Splits document.text) →
        exit = ⟨0, String.join (documents.map (found arguments)), ""⟩) ∧
      ∀ before document after, documents = before ++ document :: after →
        (∀ document ∈ before, ¬ arguments.Splits document.text) →
        arguments.Splits document.text →
        exit = ⟨1, String.join (before.map (found arguments)) ++ foundEnded arguments document,
          (SearchFault.malformed document.name).message⟩ := by
  intro documents exit
  have hexit : exit = (searchAll arguments (documents.map Document.source)).exit := by
    rw [← sources_eq_map_source hfile]
  refine ⟨fun document => searchSource_of_not_splits, fun document => searchSource_of_splits,
    ⟨?_, ?_⟩, ?_, ?_⟩
  · intro hcode
    by_contra hsome
    push Not at hsome
    obtain ⟨before, document, after, hdocuments, hbefore, hsplits⟩ := exists_first_splits hsome
    rw [hexit, hdocuments, exit_of_splits hbefore hsplits] at hcode
    exact absurd hcode one_ne_zero
  · intro hall
    rw [hexit, exit_of_forall_not_splits hall]
  · intro hall
    rw [hexit, exit_of_forall_not_splits hall]
  · rintro before document after hdocuments hbefore hsplits
    rw [hexit, hdocuments, exit_of_splits hbefore hsplits]

/-- What was found in the line before stays, and the second file is not searched. -/
theorem limit_inside_character_files :
    let arguments : Arguments := ⟨false, false, .info, none, some 5, [], "a", ["x.log", "y.log"]⟩
    let text (name : String) : String := if name = "x.log" then "aa\nbé" else "aaa"
    let file (name : String) : Option (List UInt8) := some (Text.encode (text name))
    (∀ name ∈ arguments.files, file name = some (Text.encode (text name))) ∧
      arguments.documents "" text = [] ++ ⟨"x.log", "aa\nbé"⟩ :: [⟨"y.log", "aaa"⟩] ∧
      arguments.Splits "aa\nbé" ∧
      (searchAll arguments (sources arguments (Text.encode "") file)).exit =
        ⟨1, "aa\n", (SearchFault.malformed "x.log").message⟩ := by
  intro arguments text file
  have hfile : ∀ name ∈ arguments.files, file name = some (Text.encode (text name)) :=
    fun name _ => rfl
  have hdocuments : arguments.documents "" text =
      [] ++ ⟨"x.log", "aa\nbé"⟩ :: [⟨"y.log", "aaa"⟩] := rfl
  have hsplits : arguments.Splits "aa\nbé" :=
    ⟨5, rfl, "aa\nb".toList, 'é', [], by decide +kernel, by decide +kernel, by decide +kernel⟩
  obtain ⟨-, -, -, -, hends⟩ := limit_inside_character arguments "" file text hfile
  refine ⟨hfile, hdocuments, hsplits, ?_⟩
  rw [hends [] _ _ hdocuments (by simp) hsplits]
  decide +kernel

/-- A limit of three bytes fails where limits of two and of four bytes do not. -/
theorem limit_loses_files :
    let files := [("x.log", Text.encode "bbé"), ("y.log", Text.encode "aaa")]
    let search (limit : String) : Exit :=
      run ⟨["logsift", "a", "x.log", "y.log", "--max-size", limit]⟩ [] fun name => files.lookup name
    (∀ file ∈ files, (Text.decode? file.2).isSome) ∧ search "2" = ⟨0, "aa\n", ""⟩ ∧
      search "3" = ⟨1, "", (SearchFault.malformed "x.log").message⟩ ∧
      search "4" = ⟨0, "aaa\n", ""⟩ := by
  decide +kernel

end LogSearch

end CommandLine
