import HeaderProbe.Catalog.Basic

namespace HeaderProbe

def devlinkHeader : Text := "include/net/devlink.h".toList

def userDevlinkHeader : Text := "include/uapi/linux/devlink.h".toList

def etherDeviceHeader : Text := "include/linux/etherdevice.h".toList

def flowDissectorHeader : Text := "include/net/flow_dissector.h".toList

def flowKeysHeader : Text := "include/net/flow_keys.h".toList

def flowOffloadHeader : Text := "include/net/flow_offload.h".toList

def netDeviceHeader : Text := "include/linux/netdevice.h".toList

def entryIn (header : Text) (query : String) : CatalogEntry :=
  ⟨query.toList ++ " in ".toList ++ header, none⟩

def entryOf (fragment query : String) : CatalogEntry :=
  ⟨query.toList ++ " in -".toList, some fragment.toList⟩

def devlinkGroup : CatalogGroup where
  name := "devlink".toList
  entries := [
    entryIn devlinkHeader
      "HAVE_DEVLINK_FLASH_UPDATE_BEGIN_END_NOTIFY if fun devlink_flash_update_begin_notify",
    entryIn devlinkHeader
      "HAVE_DEVLINK_FLASH_UPDATE_PARAMS_FW if struct devlink_flash_update_params matches 'struct firmware \\*fw'",
    entryIn devlinkHeader
      "HAVE_DEVLINK_FLASH_UPDATE_PARAMS if struct devlink_flash_update_params",
    entryIn devlinkHeader
      "HAVE_DEVLINK_HEALTH_DEFAULT_AUTO_RECOVER if fun devlink_health_reporter_create lacks auto_recover",
    entryIn devlinkHeader
      "HAVE_DEVLINK_HEALTH if enum devlink_health_reporter_state",
    entryIn devlinkHeader
      "HAVE_DEVLINK_HEALTH_OPS_EXTACK if method dump of devlink_health_reporter_ops matches ext_ack",
    entryIn devlinkHeader
      "HAVE_DEVLINK_INFO_DRIVER_NAME_PUT if fun devlink_info_driver_name_put",
    entryIn devlinkHeader
      "HAVE_DEVLINK_PARAMS if method validate of devlink_param matches ext_ack",
    entryIn devlinkHeader
      "HAVE_DEVLINK_PARAMS_PUBLISH if fun devlink_params_publish",
    entryOf "REGION_OPS"
      "HAVE_DEVLINK_REGION_OPS_SNAPSHOT if fun snapshot",
    entryOf "REGION_OPS"
      "HAVE_DEVLINK_REGION_OPS_SNAPSHOT_OPS if fun snapshot matches devlink_region_ops",
    entryOf "REGION_OPS"
      "HAVE_DEVLINK_REGIONS if struct devlink_region_ops",
    entryIn devlinkHeader
      "HAVE_DEVLINK_REGISTER_SETS_DEV if fun devlink_register matches 'struct device'",
    entryIn devlinkHeader
      "HAVE_DEVLINK_RELOAD_ENABLE_DISABLE if fun devlink_reload_enable",
    entryIn devlinkHeader
      "HAVE_DEVLINK_SET_FEATURES if fun devlink_set_features",
    entryIn userDevlinkHeader
      "HAVE_DEVLINK_RELOAD_ACTION_AND_LIMIT if enum devlink_reload_action matches DEVLINK_RELOAD_ACTION_FW_ACTIVATE"]
  fragments :=
    [⟨"REGION_OPS".toList, "struct".toList, "devlink_region_ops".toList, [devlinkHeader]⟩]
  option := some "CONFIG_NET_DEVLINK".toList
  onRecord := true

def netDeviceGroup : CatalogGroup where
  name := "netdevice".toList
  entries := [
    entryIn netDeviceHeader
      "HAVE_NDO_FDB_ADD_VID if method ndo_fdb_del of net_device_ops matches 'u16 vid'",
    entryIn netDeviceHeader
      "HAVE_NDO_FDB_DEL_EXTACK if method ndo_fdb_del of net_device_ops matches ext_ack",
    entryIn netDeviceHeader
      "HAVE_NDO_GET_DEVLINK_PORT if method ndo_get_devlink_port of net_device_ops",
    entryIn netDeviceHeader
      "HAVE_SET_NETDEV_DEVLINK_PORT if macro SET_NETDEV_DEVLINK_PORT",
    entryIn netDeviceHeader
      "NEED_NETIF_NAPI_ADD_NO_WEIGHT if fun netif_napi_add matches weight"]
  onRecord := true

def flowOffloadGroup : CatalogGroup where
  name := "flow_offload".toList
  entries := [
    entryIn flowOffloadHeader
      "HAVE_FLOW_DISSECTOR_KEY_CVLAN if fun flow_rule_match_cvlan"]
  requiredFile := some flowOffloadHeader

def flowDissectorGroup : CatalogGroup where
  name := "flow_dissector".toList
  entries := [
    entryIn (flowDissectorHeader ++ ' ' :: flowKeysHeader)
      "HAVE_FLOW_DISSECTOR_KEY_PPPOE if enum flow_dissector_key_id matches FLOW_DISSECTOR_KEY_PPPOE"]

def otherGroup : CatalogGroup where
  name := "other".toList
  entries := [
    entryIn etherDeviceHeader
      "NEED_ETH_HW_ADDR_SET if fun eth_hw_addr_set absent"]

def Catalog.builtin : Catalog :=
  [devlinkGroup, netDeviceGroup, flowOffloadGroup, flowDissectorGroup, otherGroup]

end HeaderProbe
