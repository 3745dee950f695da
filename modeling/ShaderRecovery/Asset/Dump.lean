import ShaderRecovery.Asset.ProgramIndex

/-!
# Listing a sub-program container

A decompressed container of one platform is listed entry by entry: its
offset, length and segment, and for each entry of the requested segment the
sub-program's version, type, code size, keywords, parameter counts, bind
channel map and, unless asked not to, its exported text.

The command line takes the container path and the flags `--version X.Y`,
`--segment N`, `--updated-gpu-program` and `--no-export`.
-/

namespace ShaderRecovery

namespace Dump

def usage : String :=
  "shader-subprograms: decode a decompressed shader sub-program container and print each program\n\n" ++
  "USAGE:\n    shader-subprograms <path.bin> [--version X.Y] [--segment N]\n" ++
  "        [--updated-gpu-program] [--no-export]\n\n" ++
  "FLAGS:\n" ++
  "    --version X.Y            Engine version the container was written by (default 2019.4)\n" ++
  "    --segment N              Segment id the file holds (default 0)\n" ++
  "    --updated-gpu-program    Clamp sub-program versions like assets with the updated layout\n" ++
  "    --no-export              Only print header fields\n"

/-- What to list. -/
structure Request where
  path : String
  options : DecodeOptions
  segment : Int
  withText : Bool
  deriving DecidableEq, Repr

/-- What the command line asks for. -/
inductive Command where
  | help
  | list (r : Request)
  deriving DecidableEq, Repr

/-- A signed 32-bit decimal, with an optional sign. -/
def parseInt32? (s : String) : Option Int :=
  let (neg, ds) := match s.toList with
    | '-' :: rest => (true, rest)
    | '+' :: rest => (false, rest)
    | cs => (false, cs)
  if ds.isEmpty || !ds.all Char.isDigit then none
  else
    let n : Int := ds.foldl (fun acc d => acc * 10 + (d.toNat - 48)) 0
    let v := if neg then -n else n
    if -2147483648 ≤ v && v < 2147483648 then some v else none

/-- Reads the arguments after the program name. -/
def parseArgs (args : List String) : Except String Command :=
  go args none DecodeOptions.default 0 true
where
  go : List String → Option String → DecodeOptions → Int → Bool → Except String Command
    | [], path, o, seg, ex =>
      match path with
      | some p => .ok (.list ⟨p, o, seg, ex⟩)
      | none => .error ("missing container input path\n\n" ++ usage)
    | a :: rest, path, o, seg, ex =>
      if a = "-h" || a = "--help" then .ok .help
      else if a = "--version" then
        match rest with
        | [] => .error "--version requires a value"
        | v :: rest' =>
          match EngineVersion.parse? v with
          | some ver => go rest' path { o with engine := ver } seg ex
          | none => .error ("invalid --version value " ++ Quoted.quote v)
      else if a = "--segment" then
        match rest with
        | [] => .error "--segment requires a value"
        | v :: rest' =>
          match parseInt32? v with
          | some n => go rest' path o n ex
          | none => .error ("invalid --segment value " ++ Quoted.quote v)
      else if a = "--updated-gpu-program" then go rest path { o with updatedPrograms := true } seg ex
      else if a = "--no-export" then go rest path o seg false
      else if a.startsWith "-" then .error ("unknown option " ++ Quoted.quote a ++ "\n\n" ++ usage)
      else match path with
        | some _ => .error ("unexpected positional argument " ++ Quoted.quote a ++ "\n\n" ++ usage)
        | none => go rest (some a) o seg ex

/-- A list of strings as `["a", "b"]`. -/
def stringList (ks : List String) : String := "[" ++ ", ".intercalate (ks.map Quoted.quote) ++ "]"

/-- A signed word in hexadecimal with `0x`, negative words as their bits. -/
def hexWord (v : Int) : String := "0x" ++ String.ofList (NumText.hexDigits (v % 4294967296).toNat)

/-- The lines of one decoded entry. -/
def entryLines (sp : SubProgram) (withText : Bool) : List String :=
  let t := sp.parameters
  ["    version=" ++ toString sp.version ++ " type=" ++ sp.programType.name ++ " code=" ++
      toString sp.code.length ++ " bytes keywords=" ++ stringList sp.keywords ++ " local=" ++
      stringList (sp.localKeywords.getD []),
   "    cbuffers=" ++ toString t.constantBuffers.length ++ " textures=" ++ toString t.textures.length ++
      " cb_bindings=" ++ toString t.bufferBindings.length ++ " buffers=" ++ toString t.buffers.length ++
      " uavs=" ++ toString t.uavs.length ++ " samplers=" ++ toString t.samplers.length ++
      " source_map=" ++ hexWord sp.bindChannels.sourceMap] ++
  if withText then
    match sp.text TextLayout.default with
    | .ok text => [text]
    | .error e => ["    export failed: " ++ e.message]
  else []

/-- The listing of a container, and the error that ended it early, if any. -/
def listing (r : Request) (bytes : List UInt8) : List String × Option String :=
  match ((ProgramIndex.readIndex r.options).run (Cursor.ofBytes bytes)).1 with
  | .error e => ([], some ("read sub-program index: " ++ e.message))
  | .ok p =>
    match p.readSegment bytes r.segment with
    | (_, some e) => ([], some ("decode segment " ++ toString r.segment ++ ": " ++ e.message))
    | (p, none) =>
      let header := r.path ++ ": " ++ toString p.entries.length ++ " entries (engine " ++
        r.options.engine.display ++ ")"
      let rec body : Nat → List IndexEntry → List String × Option String
        | _, [] => ([], none)
        | i, e :: es =>
          let line := "[" ++ toString i ++ "] offset=" ++ toString e.offset ++ " length=" ++
            toString e.length ++ " segment=" ++ toString e.segment
          if e.segment ≠ r.segment then
            let rest := body (i + 1) es
            (line :: rest.1, rest.2)
          else match p.subProgram? i with
            | .error err => ([line], some err.message)
            | .ok sp =>
              let rest := body (i + 1) es
              (line :: entryLines sp r.withText ++ rest.1, rest.2)
      let b := body 0 p.entries
      (header :: b.1, b.2)

end Dump

end ShaderRecovery
