import ApiSpec.Document.Build

/-!
# From a model to a document

The extraction runs one resolver over the model with the configured wrappers and examples,
the configured vocabulary and the path heuristic; the categories are then mapped. The document
is built from the controllers over the arena the extraction filled. The warnings of both
stages are kept in the order they were raised. A model whose type resolution never ends has no
document.
-/

namespace ApiSpec

/-- The resolver environment a configuration sets up over a model. -/
def Config.resolverEnv (cfg : Config) (m : Manifest) : ResolverEnv := ⟨m, cfg.wrapperTypes, cfg.examples⟩

/-- What an extraction finds: the controllers, the named types and the warnings. -/
structure Extraction where
  controllers : List ControllerDescriptor
  arena : Arena
  notices : List Notice
  deriving Inhabited

/-- Extracts the controllers of a model; the category heuristic's fault stops it, and `none`
is an extraction whose type resolution never ends. -/
def extraction (m : Manifest) (cfg : Config) : Option (Except StripFault Extraction) :=
  ((extractControllers (cfg.resolverEnv m) cfg.classifier cfg.pathHeuristic).run.run
    ResolverState.initial).map fun (r, st) => r.map fun cs => ⟨cs, st.arena, st.notices⟩

/-- A document with the warnings raised while making it. -/
structure Generation where
  document : Document
  notices : List Notice
  deriving Inhabited

/-- The document built from an extraction. -/
def Extraction.generation (cfg : Config) (ex : Extraction) : Generation :=
  let cs := applyCategoryMapping cfg.categoryMapping ex.controllers
  let (doc, st) := (buildDocument ex.arena cfg cs).run SchemaState.initial
  ⟨doc, ex.notices ++ st.notices⟩

/-- The document of a model under a configuration; `none` when its extraction never ends. -/
def generateDocument (m : Manifest) (cfg : Config) : Option (Except StripFault Generation) :=
  (extraction m cfg).map fun r => r.map (Extraction.generation cfg)

end ApiSpec
