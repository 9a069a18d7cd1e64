import WorkflowAtlas.Facts.Basic
import WorkflowAtlas.Json.Decoder

/-!
# Facts as JSON

How facts are written and read. Empty lists and absent options of the fields that are left out when
empty have no member; each such field may be missing when facts are read.
-/

namespace WorkflowAtlas

open WorkflowAtlas.Json

/-- Paths are written as they are. -/
def SourcePath.toJson (path : SourcePath) : Json := .str path.text

def SourcePath.decode : Decoder SourcePath := fun doc => do return ⟨← Decoder.string doc⟩

def Language.toJson (language : Language) : Json := .str language.name

namespace CallSite

def toJson (site : CallSite) : Json :=
  .obj [("callee", .str site.callee), ("line", .nat site.line)]

def record : Record CallSite :=
  CallSite.mk <$> .required "callee" .string <*> .required "line" .nat32

end CallSite

namespace Request

def toJson (request : Request) : Json :=
  .obj [("file", request.file.toJson), ("line", .nat request.line), ("function", .str request.function),
    ("method", .str request.method), ("rawPath", .str request.rawPath), ("path", .str request.path)]

def record : Record Request :=
  Request.mk <$> .required "file" SourcePath.decode <*> .required "line" .nat32 <*> .required "function" .string
    <*> .required "method" .string <*> .required "rawPath" .string <*> .required "path" .string

end Request

namespace RouteHandler

def toJson (route : RouteHandler) : Json :=
  .obj [("file", route.file.toJson), ("line", .nat route.line), ("function", .str route.function),
    ("method", .str route.method), ("rawPath", .str route.rawPath), ("path", .str route.path),
    ("detectedBy", .str route.detectedBy.name)]

def record : Record RouteHandler :=
  RouteHandler.mk <$> .required "file" SourcePath.decode <*> .required "line" .nat32
    <*> .required "function" .string <*> .required "method" .string <*> .required "rawPath" .string
    <*> .required "path" .string <*> .required "detectedBy" (.word RouteSource.ofName?)

end RouteHandler

namespace FunctionFacts

def toJson (function : FunctionFacts) : Json :=
  .obj <| [("name", .str function.name), ("file", function.file.toJson), ("startLine", .nat function.startLine),
      ("endLine", .nat function.endLine), ("params", .strings function.params),
      ("isAsync", .bool function.isAsync), ("isExported", .bool function.isExported),
      ("calls", .strings function.calls)]
    ++ nonEmpty "callSites" CallSite.toJson function.callSites
    ++ nonEmpty "llmCalls" .str function.llmCalls
    ++ [("hasLLMCall", .bool function.hasLlmCall)]
    ++ nonEmpty "httpCalls" Request.toJson function.requests

def record : Record FunctionFacts :=
  FunctionFacts.mk <$> .required "name" .string <*> .required "file" SourcePath.decode
    <*> .required "startLine" .nat32 <*> .required "endLine" .nat32 <*> .required "params" (.list .string)
    <*> .required "isAsync" .bool <*> .required "isExported" .bool <*> .required "calls" (.list .string)
    <*> .defaulted "callSites" (.list CallSite.record.decoder) [] <*> .defaulted "llmCalls" (.list .string) []
    <*> .required "hasLLMCall" .bool <*> .defaulted "httpCalls" (.list Request.record.decoder) []

end FunctionFacts

namespace ImportedName

def toJson (imported : ImportedName) : Json :=
  .obj <| ("name", .str imported.name) :: present "alias" .str imported.asName

def record : Record ImportedName :=
  ImportedName.mk <$> .required "name" .string <*> .optional "alias" .string

end ImportedName

namespace Import

def toJson (imported : Import) : Json :=
  .obj <| [("source", .str imported.source), ("names", .arr (imported.names.map ImportedName.toJson))]
    ++ present "alias" .str imported.asName ++ [("line", .nat imported.line)]

def record : Record Import :=
  Import.mk <$> .required "source" .string <*> .required "names" (.list ImportedName.record.decoder)
    <*> .optional "alias" .string <*> .required "line" .nat32

end Import

namespace FileFacts

def toJson (facts : FileFacts) : Json :=
  .obj [("file", facts.file.toJson), ("language", .option Language.toJson facts.language),
    ("functions", .arr (facts.functions.map FunctionFacts.toJson)),
    ("imports", .arr (facts.imports.map Import.toJson)), ("exports", .strings facts.exports),
    ("routeHandlers", .arr (facts.routes.map RouteHandler.toJson)),
    ("httpCalls", .arr (facts.requests.map Request.toJson))]

def record : Record FileFacts :=
  FileFacts.mk <$> .required "file" SourcePath.decode <*> .placed "language" (.word Language.ofName?)
    <*> .required "functions" (.list FunctionFacts.record.decoder)
    <*> .required "imports" (.list Import.record.decoder) <*> .required "exports" (.list .string)
    <*> .required "routeHandlers" (.list RouteHandler.record.decoder)
    <*> .required "httpCalls" (.list Request.record.decoder)

end FileFacts

def Connection.toJson (connection : Connection) : Json :=
  .obj [("client", connection.client.toJson), ("handler", connection.handler.toJson),
    ("confidence", .str connection.confidence.name)]

def CallerPlace.toJson (place : CallerPlace) : Json :=
  .obj [("file", place.file.toJson), ("function", .str place.function), ("line", .nat place.line)]

def CalleePlace.toJson (place : CalleePlace) : Json :=
  .obj <| [("file", place.file.toJson), ("function", .str place.function)] ++ present "module" .str place.module

def CrossFileCall.toJson (call : CrossFileCall) : Json :=
  .obj [("caller", call.caller.toJson), ("callee", call.callee.toJson)]

end WorkflowAtlas
