import RaviDebug.Spec.Debugger
import RaviDebug.Proof.Lifecycle
import RaviDebug.Proof.Run
import RaviDebug.Proof.Refusal
import RaviDebug.Proof.Correspondence
import RaviDebug.Proof.Reading
import RaviDebug.Proof.Emission
import RaviDebug.Proof.Variables
import RaviDebug.Proof.FirstStop
import RaviDebug.Proof.StackTrace
import RaviDebug.Proof.Phases
import RaviDebug.Proof.ProgramRun
