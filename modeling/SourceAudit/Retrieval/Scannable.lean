import SourceAudit.Path
import SourceAudit.Text.Case

/-!
# SourceAudit.Retrieval.Scannable

Which files of a repository are searched: text in known formats, by extension or by name, outside
the directories that hold generated or foreign code.
-/

namespace SourceAudit.Retrieval

open Text

/-- The extensions of the formats that are searched. -/
def scannableExtensions : List String := [
  ".ts", ".tsx", ".js", ".jsx", ".mjs", ".cjs",
  ".py", ".rb", ".go", ".php", ".java", ".kt", ".cs", ".rs", ".swift",
  ".vue", ".svelte",
  ".sql", ".graphql", ".gql", ".prisma",
  ".json", ".yaml", ".yml", ".toml", ".ini", ".cfg", ".conf", ".xml", ".properties",
  ".env", ".sh", ".bash", ".tf"]

/-- The names of files that are searched whatever their extension. -/
def scannableNames : List String := [
  "Dockerfile", "docker-compose.yml", "docker-compose.yaml", ".dockerignore", ".gitignore",
  ".npmrc", ".yarnrc", ".pypirc", "Procfile"]

/-- The endings of binary and generated files. -/
def binaryEndings : List String := [
  ".png", ".jpg", ".jpeg", ".gif", ".ico", ".webp", ".svg", ".bmp",
  ".pdf", ".doc", ".docx", ".xls", ".xlsx", ".ppt", ".pptx",
  ".zip", ".tar", ".gz", ".tgz", ".rar", ".7z", ".jar", ".war",
  ".exe", ".dll", ".so", ".dylib", ".bin", ".wasm",
  ".woff", ".woff2", ".ttf", ".eot", ".otf",
  ".mp3", ".mp4", ".avi", ".mov", ".wav", ".webm",
  ".pyc", ".pyo", ".class", ".o", ".a",
  ".lock", ".min.js", ".min.css", ".map"]

/-- The directories that are left out, with everything below them. -/
def skippedDirectories : List String := [
  "node_modules", ".git", "dist", "build", ".next", ".nuxt", "coverage", "vendor", "__pycache__",
  ".pytest_cache", ".venv", "venv"]

/-- Is the name `.env`, or that and an extension within one line? -/
def isEnvName (name : List Char) : Bool :=
  match name with
  | '.' :: 'e' :: 'n' :: 'v' :: rest =>
    match rest with
    | [] => true
    | '.' :: extension => !extension.isEmpty && !extension.contains '\n'
    | _ => false
  | _ => false

/-- Is it a file of environment variables? A line feed at the end of its name does not count. -/
def isEnvFile (name : String) : Bool :=
  let cs := name.toList
  isEnvName cs || (cs.getLast? = some '\n' && isEnvName cs.dropLast)

/-- Does the path look like one of a binary or generated file? -/
def isBinaryPath (path : String) : Bool :=
  let lowered := (lower path).toList
  binaryEndings.any fun ending => ending.toList.isSuffixOf lowered

/-- Is the file at a path to be searched? -/
def isScannable (path : String) : Bool :=
  if (Path.directories path).any skippedDirectories.contains || isBinaryPath path then false
  else
    let name := Path.name path
    scannableNames.contains name || isEnvFile name ||
      scannableExtensions.contains (lower (Path.suffix path))

end SourceAudit.Retrieval
