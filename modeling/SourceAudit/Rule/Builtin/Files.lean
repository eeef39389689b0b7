/-!
# SourceAudit.Rule.Builtin.Files

The globs of the kinds of files that the built-in rules are for.
-/

namespace SourceAudit.Builtin

/-- Sources in JavaScript, TypeScript and the component formats built on them. -/
def scripts : List String :=
  ["*.js", "*.jsx", "*.ts", "*.tsx", "*.mjs", "*.cjs", "*.vue", "*.svelte"]

/-- Sources in Python. -/
def python : List String :=
  ["*.py"]

/-- Sources in any of the languages searched. -/
def code : List String :=
  scripts ++ python ++ ["*.rb", "*.go", "*.php", "*.java", "*.kt", "*.cs", "*.rs", "*.swift"]

/-- Configuration in the usual formats. -/
def configuration : List String :=
  ["*.json", "*.yaml", "*.yml", "*.toml", "*.ini", "*.cfg", "*.conf", "*.xml", "*.properties",
    "*.tf"]

/-- Files of environment variables. -/
def environmentFiles : List String :=
  [".env", ".env.*"]

/-- Build files of containers. -/
def containerFiles : List String :=
  ["Dockerfile", "*.dockerfile", "Dockerfile.*"]

/-- Workflows run on a push or a pull request. -/
def workflows : List String :=
  [".github/workflows/*.yml", ".github/workflows/*.yaml"]

/-- Manifests that name the packages depended on. -/
def manifests : List String :=
  ["package.json"]

end SourceAudit.Builtin
