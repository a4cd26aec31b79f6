import CommandLine.LogSearch.Severity
import CommandLine.Value.Decoder

/-!
# Value types of the sample programs

Enumerations, wrappers of other types, and a text of limited length. Every type is found by
the name under which declarations mention it.
-/

namespace CommandLine.Sample

def mode : Decoder Scalar :=
  .enumeration [("fast", "Fast"), ("extra-safe", "ExtraSafe")]

def odd : Decoder Scalar :=
  .enumeration
    [("http-server", "HTTPServer"), ("ipv6-only", "Ipv6Only"),
     ("snake-case-name", "snake_case_name"), ("type", "Type"), ("With Space", "Spaced"),
     ("true", "Yes"), ("--dash", "Dash"), ("größe", "Groesse")]

def shortText : Decoder Scalar where
  kind := .parsable
  decode argument :=
    if argument.length = 0 then .error (.custom "nothing here")
    else if argument.length ≤ 5 then .ok (.text argument)
    else .error (.custom (toString argument.length ++ " is too long"))
  initial := .text ""

/-- Every value type under the name that declarations use. -/
def decoders : List (String × Decoder Scalar) :=
  [("u8", .integer 8 false), ("u16", .integer 16 false), ("u32", .integer 32 false),
   ("u64", .integer 64 false), ("u128", .integer 128 false), ("usize", .integer 64 false),
   ("i8", .integer 8 true), ("i16", .integer 16 true), ("i32", .integer 32 true),
   ("i64", .integer 64 true), ("i128", .integer 128 true), ("isize", .integer 64 true),
   ("f32", .float .binary32), ("f64", .float .binary64), ("bool", .bool), ("char", .char),
   ("String", .text), ("PathBuf", .path), ("OsString", .text),
   ("Ipv4Addr", .ipv4), ("Ipv6Addr", .ipv6), ("IpAddr", .ip),
   ("SocketAddrV4", .socketV4), ("SocketAddrV6", .socketV6), ("SocketAddr", .socket),
   ("NaiveDate", .date), ("NaiveTime", .clock), ("NaiveDateTime", .dateTime),
   ("DateTimeOffset", .offsetDateTime), ("DateTime<FixedOffset>", .offsetDateTime),
   ("DateTimeUtc", .utcDateTime), ("DateTime<Utc>", .utcDateTime), ("TimeDelta", .duration),
   ("ByteSize", .byteSize), ("Mode", mode), ("Level", LogSearch.Severity.decoder), ("Odd", odd),
   ("Port", .integer 16 false), ("Named", .integer 16 false), ("Wrap", .bool), ("Switch", .bool),
   ("Custom5", shortText)]

def decoder? (type : String) : Option (Decoder Scalar) :=
  (decoders.find? (·.1 = type)).map (·.2)

end CommandLine.Sample
