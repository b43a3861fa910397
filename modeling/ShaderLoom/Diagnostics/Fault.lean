/-!
Everything that can be refused, each with its cause, and the one place where it is worded.
-/

namespace ShaderLoom

/-- The part of an expression that was never given. -/
inductive Missing where
  | type | value
  deriving DecidableEq, Repr

def Missing.name : Missing → String
  | type => "TYPE"
  | value => "VALUE"

inductive CompileFault where
  | diagnostic (text : String)
  | pipeline (source : String)
  deriving DecidableEq, Repr

inductive ConfigFault where
  | zeroRate
  | emptyWindow (width height : UInt32)
  | unknownVerbosity (text : String)
  | unknownDemo (name : String)
  | stated (text : String)
  deriving DecidableEq, Repr

inductive ContextFault where
  | noAdapter
  | stated (text : String)
  deriving DecidableEq, Repr

inductive Fault where
  | compilation (cause : CompileFault)
  | malformed (name : String) (missing : Missing)
  | config (cause : ConfigFault)
  | context (cause : ContextFault)
  deriving DecidableEq, Repr

def CompileFault.message : CompileFault → String
  | diagnostic text => text
  | pipeline source => "impossible de créer le pipeline pour la source:\n" ++ source

def ConfigFault.message : ConfigFault → String
  | zeroRate => "render.target_fps doit être strictement positif"
  | emptyWindow w h => "dimensions de fenêtre invalides: " ++ toString w ++ "x" ++ toString h
  | unknownVerbosity text => "niveau de log inconnu: " ++ text
  | unknownDemo name => "démo inconnue: " ++ name
  | stated text => text

def ContextFault.message : ContextFault → String
  | noAdapter => "aucun adaptateur graphique compatible"
  | stated text => text

namespace Fault

def message : Fault → String
  | compilation c => "Échec de compilation du shader: " ++ c.message
  | malformed name missing =>
    "Expression malformée: " ++ missing.name ++ " invalide ou absent pour la variable '" ++
      name ++ "'"
  | config c => "Configuration invalide: " ++ c.message
  | context c => "Contexte graphique indisponible: " ++ c.message

def isCompilation : Fault → Bool
  | compilation _ => true
  | _ => false

end Fault

end ShaderLoom
