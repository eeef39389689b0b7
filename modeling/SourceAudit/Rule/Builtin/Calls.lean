import SourceAudit.Rule.Builtin.Files
import SourceAudit.Rule.Draft

/-!
# SourceAudit.Rule.Builtin.Calls

Calls that run, query, fetch or render what a caller may control.
-/

namespace SourceAudit.Builtin

/-- A value that comes from the caller, as the handlers of common web frameworks write it. -/
def userInput : String :=
  "(?<![\\w.])(?:req\\.|request\\.(?:args|form|json|query|body|GET|POST)|body\\.|params\\." ++
  "|query\\.|searchParams\\.get)"

/-- The rules for insecure calls. -/
def callDrafts : List RuleDraft := [
  { id := "python-eval-exec"
    category := .insecureCall
    severity := .high
    title := "Use of eval() or exec()"
    pattern := "(?<![\\w.])(?:eval|exec)\\s*\\("
    appliesTo := python
    description :=
      "eval and exec run arbitrary code; with any user influence this is remote code " ++
      "execution."
    recommendation :=
      "Avoid evaluating dynamic code; parse input with ast.literal_eval or a schema." },
  { id := "js-eval"
    category := .insecureCall
    severity := .high
    title := "Use of eval() or new Function()"
    pattern := "(?<![\\w.])eval\\s*\\(|\\bnew\\s+Function\\s*\\("
    appliesTo := scripts
    description := "eval and the Function constructor compile strings into code at runtime."
    recommendation := "Avoid evaluating dynamic code; use JSON.parse or explicit dispatch." },
  { id := "subprocess-shell"
    category := .insecureCall
    severity := .high
    title := "subprocess call with shell=True"
    pattern := "\\bsubprocess\\.\\w+\\(.*\\bshell\\s*=\\s*True"
    appliesTo := python
    description :=
      "With shell=True the command string is parsed by /bin/sh, so interpolated input can " ++
      "inject commands."
    recommendation := "Pass an argument list and keep shell=False." },
  { id := "os-system"
    category := .insecureCall
    severity := .medium
    title := "Shell command via os.system/os.popen"
    pattern := "\\bos\\.(?:system|popen)\\s*\\("
    appliesTo := python
    description := "os.system and os.popen always go through the shell."
    recommendation := "Use subprocess.run with an argument list." },
  { id := "child-process-injection"
    category := .insecureCall
    severity := .high
    title := "Shell command built from dynamic input"
    pattern := "\\bexec(?:Sync)?\\s*\\(\\s*(?:`[^`]*\\$\\\x7b|[\\\"'][^\\\"']*[\\\"']\\s*\\+)"
    appliesTo := scripts
    description :=
      "child_process.exec runs its argument through a shell; concatenated input allows " ++
      "command injection."
    recommendation :=
      "Use execFile/spawn with an argument array instead of building a command string." },
  { id := "unsafe-deserialization"
    category := .insecureCall
    severity := .high
    title := "Unsafe deserialization"
    pattern :=
      "\\b(?:pickle|cPickle|marshal|dill)\\.loads?\\s*\\(|\\byaml\\.(?:unsafe_load" ++
      "|load)\\s*\\((?![^)]*SafeLoader)"
    appliesTo := python
    description := "These loaders can construct arbitrary objects and run code while parsing."
    recommendation := "Deserialize untrusted data only with safe formats (json, yaml.safe_load)." },
  { id := "dangerous-html"
    category := .insecureCall
    severity := .medium
    title := "Raw HTML injection sink"
    pattern :=
      "dangerouslySetInnerHTML|\\.innerHTML\\s*=|\\bdocument\\.write\\s*\\(|\\bv-html\\s*="
    appliesTo := scripts
    description :=
      "Writing raw HTML bypasses the framework's escaping and is the usual path to XSS."
    recommendation :=
      "Render text content or sanitize HTML with a vetted library such as DOMPurify." },
  { id := "sql-string-building"
    category := .insecureCall
    severity := .high
    title := "SQL query built from string interpolation"
    pattern :=
      "\\.(?:execute|query|raw)\\s*\\(\\s*(?:f[\\\"'][^\\\"']*\\b(?:select|insert|update" ++
      "|delete)\\b[^\\\"']*\\\x7b|`[^`]*\\b(?:select|insert|update|delete)\\b[^`]*\\$\\\x7b" ++
      "|[\\\"'][^\\\"']*\\b(?:select|insert|update|delete)\\b[^\\\"']*[\\\"']\\s*(?:\\+|%" ++
      "|\\.format\\())"
    appliesTo := code
    description := "Values spliced into SQL text can change the query; this is SQL injection."
    recommendation := "Use parameterized queries or the ORM's query builder."
    ignoreCase := true },
  { id := "ssrf-user-url"
    category := .insecureCall
    severity := .high
    title := "Outbound request to a user-controlled URL"
    pattern :=
      "(?:\\b(?:fetch|axios(?:\\.(?:get|post|put|patch|delete|request))?|got|https?\\.(?:get" ++
      "|request)|requests\\.(?:get|post|put|patch|delete|request)|httpx\\.(?:get|post|put" ++
      "|patch|delete|request)|urlopen)|\\bnew\\s+URL)\\s*\\(\\s*" ++
      userInput
    appliesTo := code
    description :=
      "Fetching a URL taken from the request lets callers reach internal services (SSRF)."
    recommendation :=
      "Validate the URL against an allowlist of hosts and block private address ranges." },
  { id := "ssrf-interpolated-url"
    category := .insecureCall
    severity := .medium
    title := "Fetch with an interpolated URL variable"
    pattern :=
      "\\bfetch\\s*\\(\\s*`[^`]*\\$\\\x7b[^\x7d]*(?:url|uri|host|endpoint" ++
      "|target)[^\x7d]*\\\x7d"
    appliesTo := scripts
    description := "A URL or host interpolated into fetch can be steered to internal services."
    recommendation := "Build outbound URLs from configuration and validate any dynamic part."
    ignoreCase := true },
  { id := "path-traversal"
    category := .insecureCall
    severity := .critical
    title := "File access with a user-controlled path"
    pattern :=
      "\\b(?:readFile|writeFile|appendFile|createReadStream|createWriteStream|unlink|rmdir" ++
      "|mkdir|sendFile)(?:Sync)?\\s*\\(\\s*" ++
      userInput ++
      "|\\bopen\\s*\\(\\s*request\\.(?:args|form|GET|POST)"
    appliesTo := code
    description :=
      "Paths taken from the request can contain ../ and reach files outside the intended " ++
      "directory."
    recommendation :=
      "Resolve the path against a fixed base directory and reject anything that escapes it." },
  { id := "path-join-user-input"
    category := .insecureCall
    severity := .high
    title := "Path built from user input"
    pattern := "\\b(?:path\\.(?:join|resolve)|os\\.path\\.join)\\s*\\([^)]*" ++ userInput
    appliesTo := code
    description :=
      "Joining does not stop traversal; an absolute or ../ segment escapes the base " ++
      "directory."
    recommendation := "Normalize the result and check it stays under the base directory." },
  { id := "nosql-where-injection"
    category := .insecureCall
    severity := .critical
    title := "MongoDB $where with user input"
    pattern := "[\\\"']?\\$where[\\\"']?\\s*:\\s*" ++ userInput
    appliesTo := code
    description := "$where evaluates JavaScript on the database server."
    recommendation :=
      "Never use $where with request data; express the filter with query operators." },
  { id := "nosql-injection"
    category := .insecureCall
    severity := .high
    title := "NoSQL query built from user input"
    pattern :=
      "[\\\"']?\\$(?:regex|ne|gt|gte|lt|lte|in|nin)[\\\"']?\\s*:\\s*" ++
      userInput ++
      "|\\.(?:find|findOne|findOneAndUpdate|updateOne|updateMany|deleteOne|deleteMany" ++
      "|countDocuments)\\s*\\(\\s*(?:req\\.(?:body|query|params)|request\\.(?:json|args" ++
      "|form))\\s*[,)]"
    appliesTo := code
    description :=
      "Request objects passed into queries can smuggle operators such as $ne and bypass " ++
      "checks."
    recommendation :=
      "Cast each field to its expected type and strip keys starting with $ before querying." },
  { id := "open-redirect"
    category := .insecureCall
    severity := .high
    title := "Redirect to a user-controlled URL"
    pattern :=
      "\\b(?:res\\.redirect|NextResponse\\.redirect|HttpResponseRedirect" ++
      "|redirect)\\s*\\(\\s*(?:\\d\x7b3\x7d\\s*,\\s*)?" ++
      userInput
    appliesTo := code
    description :=
      "Redirecting to a URL from the request lets attackers bounce users to phishing pages."
    recommendation := "Redirect only to relative paths or to hosts on an allowlist." },
  { id := "client-side-redirect"
    category := .insecureCall
    severity := .medium
    title := "Client-side redirect built from variables"
    pattern :=
      "\\bwindow\\.location(?:\\.href)?\\s*=\\s*(?:[^;=]*\\+|`[^`]*\\$\\\x7b)" ++
      "|\\brouter\\.(?:push|replace)\\s*\\(\\s*(?:[^)]*\\+|`[^`]*\\$\\\x7b)"
    appliesTo := scripts
    description := "Navigation targets assembled from input can become open redirects."
    recommendation := "Validate the destination before navigating." },
  { id := "prototype-pollution"
    category := .insecureCall
    severity := .high
    title := "Object merge with user input"
    pattern :=
      "\\bObject\\.assign\\s*\\(\\s*\\\x7b\\s*\\\x7d\\s*,\\s*(?:req\\.|body\\b|params\\b" ++
      "|query\\b)|\\b(?:_|lodash)\\.(?:merge|mergeWith|defaultsDeep|set|setWith" ++
      "|zipObjectDeep)\\s*\\([^)]*" ++
      userInput
    appliesTo := scripts
    description :=
      "Merging request data can set __proto__ and change the behavior of every object."
    recommendation := "Validate request data with a schema and copy only known keys." },
  { id := "dynamic-property-assignment"
    category := .insecureCall
    severity := .medium
    title := "Assignment to a dynamic property"
    pattern := "\\[(?:key|prop|name)\\]\\s*=\\s*(?:value|val|v)\\b"
    appliesTo := scripts
    description := "Assigning to a caller-chosen key can pollute object prototypes."
    recommendation := "Reject __proto__, constructor and prototype keys, or use a Map." }]

end SourceAudit.Builtin
