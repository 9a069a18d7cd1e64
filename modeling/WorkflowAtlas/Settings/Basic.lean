import WorkflowAtlas.Http.Objects
import WorkflowAtlas.Json.Basic

/-!
# Settings

What an analysis is told: the patterns by which language model calls are recognised, the names of
HTTP objects, and which files to leave out. Every setting has a value of its own, so that no
settings at all are settings too.
-/

namespace WorkflowAtlas

/-- **The patterns** by which use of a language model is recognised. -/
structure LlmPatterns where
  /-- For whole callees. -/
  calls : List String :=
    ["chat\\.completions\\.create", "\\bcompletions\\.create", "\\bmessages\\.(create|stream)\\b",
      "\\bresponses\\.create", "\\bembeddings\\.create", "generate_content", "generateContent(Stream)?\\b",
      "(^|\\.)(generateText|streamText|generateObject|streamObject)$", "ChatCompletion\\.a?create",
      "\\bollama\\.(chat|generate|embeddings)\\b", "invoke_model", "(^|\\.)converse(_stream)?$",
      "CreateChatCompletion", "\\bMessages\\.New$",
      "^(openai|anthropic|genai|gemini|cohere|mistral|groq|ollama|litellm|bedrock|vertexai)\\."]
  /-- For the names of clients and their constructors. -/
  identifiers : List String :=
    ["(?i)(openai|anthropic|genai|gemini|claude|gpt|llm|cohere|mistral|groq|ollama|bedrock|vertexai|langchain|litellm|chatmodel)"]
  /-- For whole files: without a hit no variable is tracked. -/
  hints : List String :=
    ["(?i)(openai|anthropic|gemini|genai|claude|gpt-|langchain|litellm|ollama|cohere|mistral|groq|bedrock|vertexai|llm|completions?\\.create|generate_?content)"]
  /-- Whether variables that hold clients are tracked. -/
  trackBindings : Bool := true
  deriving DecidableEq, Repr, Inhabited

/-- The objects that register routes and send requests when nothing else is said. -/
def Http.Objects.standard : Http.Objects where
  routers :=
    ["app", "router", "api", "server", "r", "e", "g", "mux", "route", "routes", "blueprint", "bp", "fastify",
      "express", "v1", "group"]
  clients :=
    ["axios", "requests", "httpx", "http", "session", "client", "api", "ky", "got", "superagent", "$http",
      "httpClient", "HttpClient", "restTemplate", "aiohttp"]

/-- **Which files are left out** of a walk. -/
structure ScanLimits where
  /-- Globs for paths below the root. -/
  exclude : List String :=
    ["**/node_modules/**", "**/dist/**", "**/build/**", "**/target/**", "**/.venv/**", "**/venv/**",
      "**/__pycache__/**", "**/*.min.js", "**/*.d.ts"]
  /-- The largest size in bytes of a file that is read. -/
  maxFileSize : Nat := 1024 * 1024
  deriving DecidableEq, Repr, Inhabited

/-- **Settings** of an analysis. -/
structure Settings where
  llm : LlmPatterns := {}
  http : Http.Objects := .standard
  scan : ScanLimits := {}
  deriving DecidableEq, Repr, Inhabited

def LlmPatterns.toJson (patterns : LlmPatterns) : Json :=
  .obj [("call_patterns", .strings patterns.calls), ("identifier_patterns", .strings patterns.identifiers),
    ("hint_patterns", .strings patterns.hints), ("track_bindings", .bool patterns.trackBindings)]

def Http.Objects.toJson (objects : Http.Objects) : Json :=
  .obj [("router_objects", .strings objects.routers), ("client_objects", .strings objects.clients)]

def ScanLimits.toJson (limits : ScanLimits) : Json :=
  .obj [("exclude", .strings limits.exclude), ("max_file_size", .nat limits.maxFileSize)]

def Settings.toJson (settings : Settings) : Json :=
  .obj [("llm", settings.llm.toJson), ("http", settings.http.toJson), ("scan", settings.scan.toJson)]

end WorkflowAtlas
