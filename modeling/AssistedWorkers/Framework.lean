import AssistedWorkers.Java.ClassName

/-!
# Names of the framework

The annotations that mark workers and modules, the classes that generated code refers to, and
the fixed parts of generated names.
-/

namespace AssistedWorkers.Framework

open AssistedWorkers.Java

/-- The package of the worker annotations and of the factory interface. -/
def workInjectPackage : String := "com.vikingsen.inject.work"

/-- Marks the constructor a factory is generated for. -/
def workerInject : String := "com.vikingsen.inject.work.WorkerInject"

/-- Marks the module that includes the generated binding module. -/
def workerModule : String := "com.vikingsen.inject.work.WorkerModule"

/-- Marks a constructor parameter that the caller of the factory supplies. -/
def assisted : String := "com.squareup.inject.assisted.Assisted"

/-- Who generated a file, as its marker says. -/
def processorName : String := "com.vikingsen.inject.work.processor.WorkerInjectProcessor"

/-- What a marker adds as a comment. -/
def processorComments : String := "https://github.com/hansenji/ViewModelInject"

/-- The annotation that marks generated classes unless another one is chosen. -/
def defaultMarkerType : String := "javax.annotation.Generated"

/-- What every factory's name ends in. -/
def factoryNameEnd : String := "_AssistedFactory"

/-- What the simple name of a binding module starts with. -/
def moduleNameStart : String := "WorkerInject_"

/-- What the name of every binding method starts with. -/
def bindMethodNameStart : String := "bind_"

/-- What stands after the last dot of a qualified name. -/
def simpleNameOf (qualified : String) : String :=
  String.ofList ((qualified.toList.splitOn '.').getLast?.getD [])

/-- The class that every worker extends, directly or not. -/
def listenableWorker : ClassName := .topLevelIn "androidx.work" "ListenableWorker"

/-- The type of a worker's own parameters. -/
def workerParameters : ClassName := .topLevelIn "androidx.work" "WorkerParameters"

/-- The type of the context a worker runs in. -/
def context : ClassName := .topLevelIn "android.content" "Context"

/-- Subclasses of `listenableWorker` that the framework itself declares, so that a worker which
extends one of them needs no further supertypes to be known. -/
def frameworkWorkers : List ClassName := [
  .topLevelIn "androidx.work" "Worker",
  .topLevelIn "androidx.work" "CoroutineWorker",
  .topLevelIn "androidx.work.rxjava2" "RxWorker",
  .topLevelIn "androidx.work.rxjava3" "RxWorker"]

/-- The interface of the generated factories. -/
def workFactory : ClassName := .topLevelIn workInjectPackage "WorkFactory"

/-- Hands out instances of its type argument. -/
def provider : ClassName := .topLevelIn "javax.inject" "Provider"

/-- Marks the constructor that the injector calls. -/
def inject : ClassName := .topLevelIn "javax.inject" "Inject"

/-- Marks a method that implements an inherited one. -/
def overrideMarker : ClassName := .topLevelIn "java.lang" "Override"

/-- Hands out one instance of its type argument, created when it is first asked for. -/
def lazily : ClassName := .topLevelIn "dagger" "Lazy"

/-- Turns a provider into a lazy one. -/
def doubleCheck : ClassName := .topLevelIn "dagger.internal" "DoubleCheck"

/-- Marks a class that holds bindings. -/
def daggerModule : ClassName := .topLevelIn "dagger" "Module"

/-- Marks a method that binds its parameter to its return type. -/
def binds : ClassName := .topLevelIn "dagger" "Binds"

/-- Marks a binding that becomes an entry of a map. -/
def intoMap : ClassName := .topLevelIn "dagger.multibindings" "IntoMap"

/-- Gives the string key of an entry. -/
def stringKey : ClassName := .topLevelIn "dagger.multibindings" "StringKey"

end AssistedWorkers.Framework
