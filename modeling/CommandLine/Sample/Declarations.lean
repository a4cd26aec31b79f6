import CommandLine.LogSearch.Arguments

/-!
# Declarations of the sample programs

Declarations that bring together what declarations can hold: every kind of value and collection,
required and optional fields, defaults, replaced and suppressed commands, letters of many scripts.
-/

namespace CommandLine.Sample

/-! ### Attributes -/

def short : Attribute := .bare "short"

def long : Attribute := .bare "long"

def shortAs (letter : Char) : Attribute := .ofChar "short" letter

def longAs (tag : String) : Attribute := .ofText "long" tag

def noLong : Attribute := .bare "no_long"

def required : Attribute := .bare "required"

def remaining : Attribute := .bare "remaining"

def named (name : String) : Attribute := .ofText "name" name

def index (place : Nat) : Attribute := .ofSource "index" (toString place)

def initial : Attribute := .bare "default"

def default (source : String) : Attribute := .ofSource "default" source

/-! ### Declarations -/

def field (name type : String) (attributes : List Attribute) : FieldDeclaration :=
  .ofSource name type attributes []

def declare (name version : String) (attributes : List Attribute) (fields : List FieldDeclaration) :
    Declaration where
  form := .named
  generics := []
  attributes := .ofText "name" name :: .ofText "version" version :: attributes
  fields := fields

/-- Options of every wrapper, two parameters, and a collector. -/
def build : Declaration :=
  declare "build" "1.0.0" []
    [.ofSource "verbose" "bool" [short, long] [" Print more output"],
     field "jobs" "u32" [short, long, default "8"],
     field "name" "String" [long, initial],
     field "color" "Option<bool>" [long],
     field "tag" "Vec<String>" [short, long],
     field "mode" "Mode" [long, default "Mode::Fast"],
     field "ratio" "Option<f64>" [long],
     field "source" "String" [],
     field "dest" "Option<String>" [],
     field "rest" "Vec<u32>" [remaining]]

def empty : Declaration :=
  declare "empty" "0" [] []

def flags : Declaration :=
  declare "flags" "1.0.0" []
    [field "a" "bool" [short], field "b" "bool" [short], field "c" "bool" [short]]

def nullFlags : Declaration :=
  declare "nullflags" "1.0.0" []
    [field "color" "Option<bool>" [short, long],
     field "debug" "Option<bool>" [short, long],
     field "verbose" "bool" [short, long],
     field "level" "Option<i8>" [short],
     field "dflt" "Option<bool>" [shortAs 'D', long, default "Some(false)"],
     field "first" "Option<bool>" [],
     field "second" "Option<String>" []]

def requiredFields : Declaration :=
  declare "required" "1.0.0" []
    [field "level" "i32" [short, long],
     field "name" "Option<String>" [long, required],
     field "optional" "Option<String>" [long],
     field "tags" "Vec<String>" [shortAs 't', noLong, required],
     field "a_long_name" "VecDeque<i16>" [.bare "option", required],
     field "input" "String" [],
     field "output" "Option<String>" [required, named "OUT"],
     field "mode" "Option<Mode>" []]

def transfer : Declaration :=
  declare "transfer" "1.0.0" []
    [field "port" "u16" [index 2, default "22"],
     field "dest" "char" [index 1],
     field "source" "i8" [index 0, named "from"],
     field "force" "bool" [long]]

def shortOnly : Declaration :=
  declare "short" "1.0.0" []
    [field "count" "u8" [shortAs 'n', noLong],
     field "flag" "bool" [shortAs 'N', noLong],
     field "xs" "Vec<i64>" [shortAs 'x', noLong]]

def schedule : Declaration :=
  declare "schedule" "1.0.0" []
    [field "day" "BTreeSet<NaiveDate>" [long],
     field "every" "Option<TimeDelta>" [long],
     field "initial" "Option<char>" [long]]

def raw : Declaration :=
  declare "raw" "1.0.0" []
    [field "r#type" "String" [long, short],
     .ofSource "state" "Option<u8>" [long] [" Collides with names the derive uses itself"],
     field "value" "Option<u8>" [long],
     field "argument" "Option<u8>" [long],
     field "r#match" "Option<String>" [],
     field "r#loop" "LinkedList<char>" [remaining]]

def server : Declaration :=
  declare "server" "1.0.0" []
    [field "port" "Port" [short, long],
     field "named" "Option<Named>" [short, long],
     field "custom" "Vec<Custom5>" [short, long],
     field "size" "ByteSize" [short, long, default "ByteSize(1 << 20)"],
     field "odd" "Option<Odd>" [short, long],
     field "ports" "Vec<Port>" [remaining]]

/-- Commands with several aliases, some of which are also tags. -/
def app : Declaration :=
  declare "app" "4.5.6"
    [.command "About" ["--about", "-A"] (some "Show details"),
     .command "Other" ["-v", "other", "--input"] none]
    [field "verbose" "bool" [short, long], field "about" "Option<String>" [long],
     field "input" "String" []]

def bareWord : Declaration :=
  declare "bareword" "1.0.0" [.bare "no_version", .command "About" ["about", "--about"] none]
    [field "value" "Option<String>" [long]]

def replaced : Declaration :=
  declare "replaced" "1.0.0" [.command "About" ["-h", "--help"] (some "  Mine  ")]
    [field "value" "Option<String>" [long]]

def tool : Declaration :=
  declare "tool" "1.2.3" []
    [.ofSource "verbose" "bool" [short, long] [" Print more output"],
     .ofSource "jobs" "u32" [short, long, default "1"] [" How many jobs to", " run at once"],
     .ofSource "input" "String" [] [" The input file"],
     field "extra" "Vec<String>" [remaining]]

def bare : Declaration :=
  declare "bare" "0.0.1"
    [.ofText "copyright" "2026 Somebody", .bare "no_help", .bare "no_version"]
    [field "value" "Option<String>" [long]]

/-- A help text and messages of its own. -/
def customHelp : Declaration :=
  declare "custom" "1.0.0"
    [.ofText "help_text" "custom_help", .ofText "messages" "FULL"]
    [field "value" "Option<String>" [long]]

def messages : Declaration :=
  declare "msg" "1" [.ofText "messages" "PARTIAL", .bare "no_version"]
    [field "count" "Option<u8>" [long], field "quiet" "bool" [short, noLong],
     field "path" "String" []]

def allMessages : Declaration :=
  declare "fullmsg" "1" [.ofText "messages" "FULL"]
    [field "count" "u8" [long, short], field "flag" "bool" [long], field "path" "u8" [],
     field "rest" "Vec<u8>" [remaining]]

/-- Messages and descriptions of several lines. -/
def multiMessages : Declaration :=
  declare "multimsg" "1" [.ofText "messages" "MULTI", .bare "no_help"]
    [.ofSource "flag" "bool" [long, short] [" - one", " - two"],
     .ofSource "blank" "bool" [long] [""],
     .ofSource "paragraphs" "bool" [long]
       [" First paragraph", " continues.", "", " Second\tparagraph."]]

def sift : Declaration :=
  LogSearch.declaration "About"

def seqs : Declaration :=
  declare "seqs" "1.0.0" []
    [field "deque" "VecDeque<i32>" [short, long],
     field "set" "HashSet<String>" [short, long],
     field "list" "LinkedList<char>" [short, long],
     field "heap" "BinaryHeap<u8>" [shortAs 'p', long],
     field "btree" "BTreeSet<IpAddr>" [short, long],
     field "modes" "BTreeSet<Mode>" [short, long],
     field "vec" "Vec<f32>" [short, long],
     field "rest" "HashSet<i8>" [remaining]]

def ints : Declaration :=
  declare "ints" "1.0.0" []
    [field "u8" "Option<u8>" [long],
     field "i8" "Option<i8>" [long],
     field "u64" "Option<u64>" [long],
     field "i64" "Option<i64>" [long],
     field "u128" "Option<u128>" [long],
     field "i128" "Option<i128>" [long],
     field "usize" "Option<usize>" [long],
     field "isize" "Option<isize>" [long],
     field "f32" "Option<f32>" [shortAs 'f', long],
     field "f64" "Vec<f64>" [shortAs 'F', long],
     field "p" "Option<i16>" [],
     field "q" "Option<f64>" [],
     field "rest" "Vec<u16>" [remaining]]

def times : Declaration :=
  declare "times" "1.0.0" []
    [field "date" "Option<NaiveDate>" [short, long],
     field "time" "Option<NaiveTime>" [short, long],
     field "local" "Option<NaiveDateTime>" [shortAs 'l', long],
     field "offset" "Option<DateTime<FixedOffset>>" [short, long],
     field "utc" "Option<DateTime<Utc>>" [short, long],
     field "spans" "Vec<TimeDelta>" [remaining]]

def nets : Declaration :=
  declare "nets" "1.0.0" []
    [field "v4" "Option<Ipv4Addr>" [long],
     field "v6" "Option<Ipv6Addr>" [long],
     field "any" "Vec<IpAddr>" [long],
     field "s4" "Option<SocketAddrV4>" [long],
     field "s6" "Option<SocketAddrV6>" [long],
     field "sock" "Option<SocketAddr>" [long],
     field "os" "Option<OsString>" [long],
     field "host" "IpAddr" []]

def unicode : Declaration :=
  declare "unicode" "é" [.ofText "copyright" "名前", .command "About" ["-ß", "über"] none]
    [.ofSource "size" "Option<String>" [shortAs 'é', longAs "größe"] [" Größe"],
     field "name" "bool" [shortAs '名', longAs "名前"],
     field "ñandú" "Vec<char>" [short, long],
     field "input" "Option<char>" [named "入力"]]

def defaults : Declaration :=
  declare "defaults" "1.0.0" []
    [field "some" "Option<u8>" [long, default "Some(5)"],
     field "list" "Vec<String>" [long, default "vec![\"a\".to_owned(), \"b\".to_owned()]"],
     field "on" "bool" [short, long, default "true"],
     field "trait_default" "Option<i32>" [long, initial],
     field "expr" "i64" [long, default "1 + 2 * 3"],
     field "ch" "char" [default "'z'"],
     field "text" "String" [initial],
     field "rest" "Vec<u8>" [remaining, default "vec![9]"]]

/-- Truth values by another name, which makes them no flags for the declaration. -/
def switches : Declaration :=
  declare "switches" "1.0.0" []
    [.ofSource "req" "Switch" [short, long]
       [" Required, because `Switch` isn't recognized as a flag"],
     field "many" "Vec<Switch>" [short, long],
     field "maybe" "Option<Switch>" [shortAs 'n', long],
     field "wrap" "Option<Wrap>" [short, long],
     field "opt" "Switch" [short, long, initial]]

def boolParams : Declaration :=
  declare "boolparams" "1.0.0" []
    [field "verbose" "bool" [short], field "strict" "Switch" [], field "first" "bool" [],
     field "second" "Option<bool>" [], field "rest" "Vec<bool>" [remaining]]

/-- Tags that look like each other. -/
def letters : Declaration :=
  declare "letters" "1.0.0" []
    [field "a" "bool" [short],
     field "upper_a" "bool" [shortAs 'A', longAs "aa"],
     field "b" "Option<String>" [short, longAs "abc"],
     field "c" "Option<bool>" [short, longAs "ab"],
     field "d" "Vec<String>" [short, longAs "abcd-e"],
     field "e" "Option<char>" [short, longAs "e.f_g"],
     field "upper_e" "Option<f32>" [shortAs 'E', longAs "A"],
     field "rest" "Vec<String>" [remaining, named "REST"]]

def declarations : List (String × Declaration) :=
  [("Build", build), ("Empty", empty), ("Flags", flags), ("NullFlags", nullFlags),
   ("Required", requiredFields), ("Transfer", transfer), ("Short", shortOnly),
   ("Schedule", schedule), ("Raw", raw), ("Server", server), ("App", app), ("BareWord", bareWord),
   ("Replaced", replaced), ("Tool", tool), ("Bare", bare), ("CustomHelp", customHelp),
   ("Messages", messages), ("FullMessages", allMessages), ("MultiMessages", multiMessages),
   ("Sift", sift), ("Seqs", seqs), ("Ints", ints), ("Times", times), ("Nets", nets),
   ("Unicode", unicode), ("Defaults", defaults), ("Switches", switches), ("BoolParams", boolParams),
   ("Letters", letters)]

end CommandLine.Sample
